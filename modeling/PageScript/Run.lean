import PageScript.Generation
import PageScript.Reply
import PageScript.Run.Result
import PageScript.Validation

namespace PageScript.Run

variable {σ η : Type}

structure Plan (σ η : Type) where
  client? : Option (ModelClient σ)
  model : Text
  openPage : Routine σ (Page σ η)
  resolver : Validation.Resolver σ η
  isCancelled : σ → Bool
  options : Suite.Options
  /-- What others do to the state until the run asks again whether it is cancelled. -/
  meanwhile : σ → σ := id
  /-- How deep the lists and maps of a reply may stand in each other. -/
  replyDepth : Nat := Datum.Json.maxDepth

/-- Asks whether the run is cancelled by now. -/
def Plan.poll (plan : Plan σ η) : Routine σ Bool := do
  Routine.change plan.meanwhile
  Routine.read plan.isCancelled

/-- What is known of a run from outside: its id, the clock at its start and at
its end in seconds, and the date. -/
structure Occasion where
  runId : Text
  started : Binary64
  finished : Binary64
  date : Text
  deriving DecidableEq, Repr

/-- The id of a run: the one that is given, or one made of hexadecimal digits. -/
def idFrom (given? : Option Text) (digits : Text) : Text :=
  match Text.nonempty? given? with
  | some given => given
  | none => "run_" ++ digits.take 12

inductive Error where
  | cancelled (runId : Text)
  | generation (error : Generation.Error)
  | reply (error : Reply.Error)
  /-- A scenario is not compiled for another reason than missing data. -/
  | compilation (error : Suite.CompileError)
  deriving DecidableEq, Repr

def Error.message : Error → Text
  | .cancelled runId => "Run " ++ runId ++ " was cancelled"
  | .generation error => error.message
  | .reply error => error.message
  | .compilation error => error.message

/-- A line of the log that belongs to a run. -/
def note (runId : Text) (level : LogLevel) (message : Text) : Routine σ Unit :=
  Routine.log level ("[" ++ runId ++ "] " ++ message)

/-- The entry for a cancellation that is noticed at some stage. -/
def cancellation (runId stage : Text) : StageError :=
  ⟨stage, "RunCancelledError", "Run " ++ runId ++ " was cancelled during " ++ stage, none⟩

def generate (plan : Plan σ η) (runId : Text) (objective : Objective) :
    Routine σ (Except Error (List Scenario)) := do
  note runId .info
    ("Generating scenarios for: '" ++ objective.text.take 50 ++ "'")
  match ← Generation.generate plan.client? plan.model objective with
  | .error error => return .error (.generation error)
  | .ok reply =>
      match Reply.scenarios plan.replyDepth reply runId with
      | .error error => return .error (.reply error)
      | .ok scenarios => return .ok scenarios

/-- The entry for the steps of a scenario that are not resolved, if there are any. -/
def unresolved? (id : Text) (outcomes : List Outcome) : Option StageError :=
  match outcomes.filter fun outcome => !outcome.resolved with
  | [] => none
  | found =>
      some ⟨"validation", "StepResolutionWarning",
        ("; " : Text).intercalate (found.map fun outcome =>
          outcome.numbered (outcome.warning?.getD "None")), some id⟩

inductive Ending where
  | complete
  | cancelled
  /-- The application could not be reached. -/
  | stopped
  deriving DecidableEq, Repr

structure Validated where
  /-- The scenarios; from the place on where validation ended they are as the
  model proposed them. -/
  outputs : List Output
  errors : List StageError
  ending : Ending
  deriving DecidableEq, Repr

/-- Scenarios that were not validated. -/
def drafts (scenarios : List Scenario) : List Output := scenarios.map fun s => ⟨s, []⟩

def validateAll (plan : Plan σ η) (runId url : Text) : List Scenario → Routine σ Validated
  | [] => return ⟨[], [], .complete⟩
  | scenario :: rest => do
      if ← plan.poll then
        let entry := cancellation runId "validation"
        note runId .warning entry.message
        return ⟨drafts (scenario :: rest), [entry], .cancelled⟩
      else
        match ← Validation.validate plan.resolver plan.openPage scenario url with
        | .error error =>
            note runId .error ("Validation stopped: " ++ error.message)
            return ⟨drafts (scenario :: rest),
              [⟨"validation", "NavigationError", error.message, none⟩], .stopped⟩
        | .ok report =>
            let later ← validateAll plan runId url rest
            return ⟨⟨report.scenario, report.outcomes⟩ :: later.outputs,
              (unresolved? scenario.id report.outcomes).toList ++ later.errors, later.ending⟩

/-- A text cut at its last full stop, if it has one. -/
def cutAtLastStop? (s : Text) : Option (Text × Text) :=
  match s.reverse.dropWhile (· != .char '.') with
  | [] => none
  | _ :: stem => some (stem.reverse, (s.reverse.takeWhile (· != .char '.')).reverse)

/-- A file name with a number, in front of the last full stop or at the end. -/
def numberedName (name : Text) (number : Nat) : Text :=
  match cutAtLastStop? name with
  | some (stem, extension) =>
      stem ++ "_" ++ toString number ++ "." ++ extension
  | none => name ++ "_" ++ toString number

/-- The options for the scenario at a place among some: a file name that is given
for the run is numbered, so that no scenario overwrites another. -/
def optionsFor (options : Suite.Options) (index total : Nat) : Suite.Options :=
  match Text.nonempty? options.fileName? with
  | none => options
  | some name =>
      if total < 2 then options
      else { options with fileName? := some (numberedName name (index + 1)) }

/-- Compiles outputs one after another, the first one having the place `index`. -/
def compileAll (plan : Plan σ η) (runId : Text) (total index : Nat) :
    List Output → Routine σ (Except Error (List Compilation × List StageError))
  | [] => return .ok ([], [])
  | output :: rest => do
      if ← plan.poll then
        let entry := cancellation runId "compilation"
        note runId .warning entry.message
        return .ok ([], [entry])
      else
        let options := optionsFor plan.options index total
        match Suite.compile output.scenario options output.outcomes with
        | .error (.lacksData name steps) =>
            let message := (Suite.CompileError.lacksData name steps).message
            note runId .error message
            let entry : StageError :=
              ⟨"compilation", "CompilationInputError", message, some output.scenario.id⟩
            match ← compileAll plan runId total (index + 1) rest with
            | .error error => return .error error
            | .ok (compilations, errors) => return .ok (compilations, entry :: errors)
        | .error error => return .error (.compilation error)
        | .ok artifact =>
            let outline := Suite.Outline.ofScenario output.scenario artifact.suiteId
            match ← compileAll plan runId total (index + 1) rest with
            | .error error => return .error error
            | .ok (compilations, errors) =>
                return .ok (⟨runId, outline, artifact⟩ :: compilations, errors)

def stageOf (ending : Ending) (compilations : List Compilation) : Text :=
  if !compilations.isEmpty then "compiled"
  else if ending = .complete then "validated"
  else "generated"

/-- The result of a run whose stages are through. -/
def resultOf (plan : Plan σ η) (occasion : Occasion) (validated : Validated)
    (compilations : List Compilation) (errors : List StageError) : Result where
  runId := occasion.runId
  generation :=
    { runId := occasion.runId
      outputs := validated.outputs
      metadata :=
        { generatedAt := occasion.date
          model := plan.model
          totalTime? := some ((occasion.finished.sub occasion.started).twoPlaces ++ "s")
          source? := some (if validated.ending = .complete then "llm+playwright" else "llm")
          validated := validated.ending = .complete
          stage := stageOf validated.ending compilations } }
  compilations := compilations
  errors := validated.errors ++ errors

def compileValidated (plan : Plan σ η) (runId : Text) (validated : Validated) :
    Routine σ (Except Error (List Compilation × List StageError)) :=
  if validated.ending = .cancelled then return .ok ([], [])
  else compileAll plan runId validated.outputs.length 0 validated.outputs

def run (plan : Plan σ η) (occasion : Occasion) (objective : Objective) :
    Routine σ (Except Error Result) := do
  let runId := occasion.runId
  if ← plan.poll then return .error (.cancelled runId)
  else
    match ← generate plan runId objective with
    | .error error => return .error error
    | .ok scenarios =>
        let validated ← validateAll plan runId objective.url scenarios
        match ← compileValidated plan runId validated with
        | .error error => return .error error
        | .ok (compilations, errors) =>
            let result := resultOf plan occasion validated compilations errors
            note runId .info
              ("Done in " ++ result.generation.metadata.totalTime?.getD "" ++ ": " ++
                toString result.generation.outputs.length ++ " scenario(s), " ++
                toString compilations.length ++ " compiled, " ++
                toString result.errors.length ++ " error(s)")
            return .ok result

end PageScript.Run
