import PageScript.Datum.Json
import PageScript.Scenario.Record

namespace PageScript.Reply

open Record

inductive Error where
  | noJson (content : Text)
  | tooManyDigits (count : Nat)
  | tooDeep
  | noScenario (kind : Text)
  | noScenarios
  /-- The scenario with this number, counted from one, is no draft. -/
  | badScenario (number : Nat) (issues : List Issue)
  deriving DecidableEq, Repr

def excerpt (content : Text) : Text := content.take 80

def issueText (issue : Issue) : Text := issue.place ++ ": " ++ issue.cause.message

def Error.message : Error → Text
  | .noJson content => "No parsable JSON in model output: " ++ Text.quoted (excerpt content)
  | .tooManyDigits count => (Text.IntegerError.tooManyDigits count).message
  | .tooDeep => ""
  | .noScenario kind => "Expected a scenario object or list, got " ++ kind
  | .noScenarios => "Model output contains no scenarios"
  | .badScenario number issues =>
      "Scenario " ++ toString number ++ " does not match the draft schema: " ++
        ("; " : Text).intercalate (issues.map issueText)

/-- Three backticks, which stand before and after code. -/
def fence : Text := List.replicate 3 (CodePoint.ofNat 0x60)

/-- The text without its first line, if that line opens a block of code. -/
def dropOpeningFence (s : Text) : Text :=
  if fence.isPrefixOf s then (s.dropWhile (· != .char '\n')).drop 1 else s

/-- The text without the fence that closes a block of code at its end. -/
def dropClosingFence (s : Text) : Text :=
  if fence.isSuffixOf s then s.take (s.length - fence.length) else s

/-- What a reply holds inside the fences around it. -/
def unfenced (s : Text) : Text :=
  Text.trim (dropClosingFence (dropOpeningFence (Text.trim s)))

/-- The text up to the last `c` in it. -/
def uptoLast (c : CodePoint) (s : Text) : Text :=
  (s.reverse.dropWhile (· != c)).reverse

def isOpening (c : CodePoint) : Bool := c == '\x7b' || c == '['

def closingOf (c : CodePoint) : CodePoint := if c == '\x7b' then '\x7d' else ']'

/-- The text from the first opening brace or bracket to the last closing one of
its kind, if there is one behind it. -/
def bracketed? (s : Text) : Option Text :=
  match s.dropWhile fun c => !isOpening c with
  | [] => none
  | c :: rest =>
      let found := uptoLast (closingOf c) (c :: rest)
      if found.isEmpty then none else some found

/-- The reading of JSON, where `none` tells that the text is not JSON. -/
def readJson? (depth : Nat) (s : Text) : Except Error (Option Datum) :=
  match Datum.Json.read depth s with
  | .ok data => .ok (some data)
  | .error .malformed => .ok none
  | .error (.tooManyDigits count) => .error (.tooManyDigits count)
  | .error .tooDeep => .error .tooDeep

/-- The JSON in a reply: the whole of it, or what stands between brackets. -/
def json (depth : Nat) (reply : Text) : Except Error Datum := do
  let content := unfenced reply
  match ← readJson? depth content with
  | some data => return data
  | none =>
      match bracketed? content with
      | none => .error (.noJson content)
      | some inner =>
          match ← readJson? depth inner with
          | some data => return data
          | none => .error (.noJson content)

def kindOf : Datum → Text
  | .null => "NoneType"
  | .bool _ => "bool"
  | .int _ => "int"
  | .float _ => "float"
  | .moment _ => "date"
  | .text _ => "str"
  | .bytes _ => "bytes"
  | .list _ => "list"
  | .map _ => "dict"

/-- What is to be read as scenarios: the entry of that name, or the data itself. -/
def payload (data : Datum) : Datum := (data.get? "scenarios").getD data

/-- The items that are to be read as one scenario each. -/
def items : Datum → Except Error (List Datum)
  | .map entries => .ok [.map entries]
  | .list [] => .error .noScenarios
  | .list found => .ok found
  | data => .error (.noScenario (kindOf data))

/-- The scenarios that items from the number `n` on describe. -/
def scenariosFrom (runId : Text) (n : Nat) : List Datum → Except Error (List Scenario)
  | [] => .ok []
  | item :: rest =>
      match Draft.read item with
      | .invalid issues => .error (.badScenario n issues)
      | .valid draft => do
          let more ← scenariosFrom runId (n + 1) rest
          return draft.toScenario (runId ++ "-" ++ toString n) :: more

/-- The scenarios of a reply.  Their ids are numbered behind the id of the run. -/
def scenarios (depth : Nat) (reply runId : Text) : Except Error (List Scenario) := do
  let data ← json depth reply
  let found ← items (payload data)
  scenariosFrom runId 1 found

end PageScript.Reply
