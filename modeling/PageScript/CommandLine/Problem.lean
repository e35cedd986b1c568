import PageScript.Run
import PageScript.Scenario.File

namespace PageScript.CommandLine

inductive Problem where
  | noKey
  | arguments (found : Record.Mismatch)
  | file (path : Text) (found : Scenario.File.Error)
  | navigation (found : Validation.NavigationError)
  | suite (found : Suite.CompileError)
  | run (found : Run.Error)

inductive Told where
  | line (text : Text)
  | mismatch (found : Record.Mismatch)
  | failure (failure : Failure)
  deriving DecidableEq, Repr

def Told.kind (kind message : Text) : Told := .line (kind ++ ": " ++ message)

def Told.badValue (message : Text) : Told := .failure ⟨"ValueError", message⟩

def kindOfUnread : Datum.Yaml.Error → Text
  | .malformed => "SchemaValidationError"
  | .noCodePoint | .noInteger _ | .noFloat _ | .noMoment _ => "ValueError"
  | .hugeCodePoint | .hugeSixties => "OverflowError"
  | .tooDeep => "RecursionError"
  | .emptyNumber => "IndexError"
  | .noTruth _ => "KeyError"
  | .noMomentForm => "AttributeError"
  | .momentOfMap => "TypeError"

namespace Problem

def toldFile (path : Text) (found : Scenario.File.Error) : Told :=
  match found with
  | .unreadable .malformed | .noMap | .mismatch _ =>
      .kind "SchemaValidationError" (found.message path)
  | .unreadable error => .failure ⟨kindOfUnread error, error.message⟩

def toldSuite (found : Suite.CompileError) : Told :=
  match found with
  | .lacksData _ _ => .kind "CompilationInputError" found.message
  | .noName _ => .failure ⟨"UnicodeEncodeError", found.message⟩
  | .pauseTooLong _ => .badValue found.message

def toldReply (found : Reply.Error) : Told :=
  match found with
  | .noJson _ => .kind "GenerationError" found.message
  | .tooManyDigits _ => .badValue found.message
  | .tooDeep => .failure ⟨"RecursionError", found.message⟩
  | _ => .kind "SchemaValidationError" found.message

def toldRun (found : Run.Error) : Told :=
  match found with
  | .cancelled _ => .kind "RunCancelledError" found.message
  | .generation _ => .kind "GenerationError" found.message
  | .reply error => toldReply error
  | .compilation error => toldSuite error

def told : Problem → Told
  | .noKey =>
      .line ("OPENAI_API_KEY environment variable is not set. " ++
        "Please export OPENAI_API_KEY='sk-...' or create a .env file.")
  | .arguments found => .mismatch found
  | .file path found => toldFile path found
  | .navigation found => .kind "NavigationError" found.message
  | .suite found => toldSuite found
  | .run found => toldRun found

end Problem

end PageScript.CommandLine
