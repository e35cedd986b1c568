import PageScript.CommandLine.Command
import PageScript.CommandLine.Problem
import PageScript.CommandLine.Session
import PageScript.Settings

namespace PageScript.CommandLine

structure Equipment (σ ρ η : Type) where
  engine : Engine σ ρ η
  client : Connection → ModelClient σ
  settings : Settings
  /-- The clock when a run begins, in seconds. -/
  started : Binary64
  finished : Binary64
  date : Text
  digits : Text

namespace Equipment

variable {σ ρ η : Type}

def browserSettings (equipment : Equipment σ ρ η) (arguments : BrowserArguments) :
    BrowserSettings where
  headless := equipment.settings.headless && !arguments.isHeaded
  ignoreHttpsErrors := arguments.ignoreHttpsErrors
  navigationTimeout := equipment.settings.navigationTimeout
  stepTimeout := equipment.settings.stepTimeout

/-- The model, if there is a key for it. -/
def client? (equipment : Equipment σ ρ η) : Option (ModelClient (Browser σ ρ)) :=
  (Connection.of? equipment.settings.apiKey? equipment.settings.baseUrl?).map
    fun connection request => Browser.onEngine (equipment.client connection request)

def plan (equipment : Equipment σ ρ η) (browser : BrowserArguments) (options : Suite.Options) :
    Run.Plan (Browser σ ρ) η where
  client? := equipment.client?
  model := equipment.settings.model
  openPage := Browser.openPage equipment.engine (equipment.browserSettings browser)
  resolver := Validation.standardResolver
  isCancelled := fun _ => false
  options := options

def occasion (equipment : Equipment σ ρ η) (runId? : Option Text) : Run.Occasion where
  runId := Run.idFrom runId? equipment.digits
  started := equipment.started
  finished := equipment.finished
  date := equipment.date

def withBrowser {α : Type} (equipment : Equipment σ ρ η) (arguments : BrowserArguments)
    (routine : Routine (Browser σ ρ) α) : Routine (Session σ ρ) α :=
  Session.onBrowser
    (Browser.during equipment.engine (equipment.browserSettings arguments) routine)

/-- Writes the files of a run and the result itself. -/
def saveResult (folder : Setting) (result : Run.Result) : Routine (Session σ ρ) Unit := do
  result.compilations.forM fun compilation => Session.saveSuite folder compilation.artifact
  result.errors.forM fun error =>
    Routine.log .warning (error.stage ++ " stage: " ++ error.kind ++ ": " ++ error.message)
  let path ← Session.makeFolder folder
  let file := joinPath path (result.runId ++ ".json")
  Session.writeFile file (result.dump.pieces 0 [])
  Session.print ("Saved run result to " ++ file)

def runWith (equipment : Equipment σ ρ η) (occasion : Run.Occasion) (objective : Objective)
    (browser : BrowserArguments) (suite : SuiteArguments) :
    Routine (Browser σ ρ) (Except Problem Run.Result) := do
  match suite.options with
  | .error found => return .error (.arguments found)
  | .ok options => return (← Run.run (equipment.plan browser options) occasion objective).mapError .run

def generate (equipment : Equipment σ ρ η) (arguments : GenerateArguments)
    (browser : BrowserArguments) (suite : SuiteArguments) :
    Routine (Session σ ρ) (Except Problem Unit) :=
  if equipment.settings.hasApiKey then
    match arguments.credentials? with
    | .error found => return .error (.arguments found)
    | .ok credentials? => do
        let objective : Objective := ⟨arguments.objective, browser.url.shown, credentials?⟩
        match ← equipment.withBrowser browser
            (equipment.runWith (equipment.occasion arguments.runId.value?) objective browser
              suite) with
        | .error problem => return .error problem
        | .ok result => do
            saveResult suite.folder result
            return .ok ()
  else return .error .noKey

def loadScenario (path : Text) : Routine (Session σ ρ) (Except Problem Scenario) := do
  let text ← Session.readFile path
  return (Scenario.File.read path text).mapError (Problem.file path)

def validate (equipment : Equipment σ ρ η) (path : Text) (browser : BrowserArguments) :
    Routine (Session σ ρ) (Except Problem Unit) := do
  match ← loadScenario path with
  | .error problem => return .error problem
  | .ok scenario => do
      match ← equipment.withBrowser browser
          (Validation.validate Validation.standardResolver
            (Browser.openPage equipment.engine (equipment.browserSettings browser)) scenario
            browser.url.shown) with
      | .error error => return .error (.navigation error)
      | .ok report => do
          Session.print report.dump.pretty
          return .ok ()

def compile (path : Text) (suite : SuiteArguments) :
    Routine (Session σ ρ) (Except Problem Unit) := do
  match ← loadScenario path with
  | .error problem => return .error problem
  | .ok scenario =>
      match suite.options with
      | .error found => return .error (.arguments found)
      | .ok options =>
          match Suite.compile scenario options [] with
          | .error error => return .error (.suite error)
          | .ok artifact => do
              Session.saveSuite suite.folder artifact
              return .ok ()

def carryOut (equipment : Equipment σ ρ η) :
    Command → Routine (Session σ ρ) (Except Problem Unit)
  | .generate arguments browser suite => equipment.generate arguments browser suite
  | .validate path browser => equipment.validate path browser
  | .compile path suite => compile path suite

end Equipment

/-- How the program ends: with a code, before any work was done, or with arguments that
do not fit or a failure that nobody provided for. -/
inductive Ending where
  | code (code : Nat)
  | stopped (code : Nat)
  | mismatch (found : Record.Mismatch)
  | failure (failure : Failure)
  deriving DecidableEq, Repr

/-- What the program leaves behind, besides the files: how it ended, what it
printed, and what it told about its work. -/
structure Transcript where
  ending : Ending
  output : Text
  notes : Text
  deriving DecidableEq, Repr

variable {σ ρ η : Type}

/-- Carries out a command and tells its problems. -/
def execute (equipment : Equipment σ ρ η) (command : Command) : Routine (Session σ ρ) Ending := do
  match ← (equipment.carryOut command).attempt with
  | .ok (.ok ()) => return .code 0
  | .ok (.error problem) =>
      match problem.told with
      | .failure failure => return .failure failure
      | .mismatch found => return .mismatch found
      | .line text => do
          Routine.log .error text
          return .code 2
  | .error (.failure failure) => return .failure failure
  | .error (.interrupt _) => do
      Routine.log .warning "Interrupted by user."
      return .code 130

def linesText (lines : List Text) : Text := lines.flatMap fun line => line ++ "\n"

def shownLog (threshold : Nat) (log : List LogRecord) : Text :=
  linesText ((log.filter fun record => threshold ≤ record.level.rank).map LogRecord.line)

def usageLine (program : Text) : Text := "usage: " ++ program

/-- Carries out a command line on a session; gives what is left of both. -/
def perform (equipment : Equipment σ ρ η) (arguments : List Text) (session : Session σ ρ) :
    Transcript × Session σ ρ :=
  match Invocation.read arguments with
  | .error (.help program) => (⟨.stopped 0, usageLine program, []⟩, session)
  | .error (.error program error) => (⟨.stopped 2, [], errorLine program error⟩, session)
  | .ok ⟨_, none⟩ => (⟨.code 1, usageLine programName, []⟩, session)
  | .ok ⟨verbosity, some command⟩ =>
      let done := execute equipment command session
      let threshold := Threshold.of verbosity equipment.settings.logLevel
      let ending := match done.value with
        | .ok ending => ending
        | .error (.failure failure) => .failure failure
        | .error (.interrupt message) => .failure ⟨"KeyboardInterrupt", message⟩
      (⟨ending, linesText done.state.printed, shownLog threshold done.log⟩, done.state)

end PageScript.CommandLine
