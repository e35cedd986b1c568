import PageScript.CommandLine.Execution
/-!
The program on a real terminal.  It compiles scenario files; a browser and a model
have to be connected by a host, so the commands that need them say so.
-/

namespace PageScript.CommandLine

/-- What is said where a host has connected nothing. -/
def notConnected (what : Text) : Failure := ⟨"RuntimeError", "no " ++ what ++ " is connected"⟩

def noEngine : Engine Unit Unit Unit where
  start := Routine.fail (notConnected "browser")
  launch _ _ := Routine.fail (notConnected "browser")
  newContext _ _ := Routine.fail (notConnected "browser")
  newTab _ := Routine.fail (notConnected "browser")
  closeContext _ := Routine.done ()
  closeBrowser _ := Routine.done ()
  stop _ := Routine.done ()

/-- A program without a browser and without a model. -/
def unconnected (settings : Settings) : Equipment Unit Unit Unit where
  engine := noEngine
  client := fun _ _ => Routine.fail (notConnected "language model")
  settings
  started := .ofDecimal false 0 0
  finished := .ofDecimal false 0 0
  date := []
  digits := []

/-- A text as it is handed to the system, which knows no surrogates. -/
def handed (s : Text) : String := String.ofList (s.map fun
  | .char c => c
  | .surrogate _ => '\uFFFD')

/-- The file that a command line needs. -/
def neededFile? (arguments : List Text) : Option Text :=
  match Invocation.read arguments with
  | .ok ⟨_, some (.validate path _)⟩ | .ok ⟨_, some (.compile path _)⟩ => some path
  | _ => none

/-- The variables that settings come from. -/
def variableNames : List String :=
  ["OPENAI_API_KEY", "OPENAI_API_BASE_URL", "OPENAI_BASE_URL", "OPENAI_MODEL", "BROWSER_HEADLESS",
   "NAVIGATION_TIMEOUT_MS", "STEP_TIMEOUT_MS", "LOG_LEVEL"]

def environment : IO Environment :=
  variableNames.filterMapM fun name => do
    return (← IO.getEnv name).map fun value => (Text.ofString name, Text.ofString value)

/-- The files that a command line needs, as far as they can be read. -/
def neededFiles (arguments : List Text) : IO (List (Text × Text)) := do
  match neededFile? arguments with
  | none => return []
  | some path =>
      try
        return [(path, Text.ofString (← IO.FS.readFile (handed path)))]
      catch _ =>
        return []

def writeNewFiles (before after : Folder) : IO Unit := do
  for (path, text) in after.files do
    if !before.hasFile path then
      let around := path.outer
      unless around.isGiven do
        IO.FS.createDirAll (handed around.text)
      IO.FS.writeFile (handed path.text) (handed text)

/-- A text with an end of its last line. -/
def closedLine (text : Text) : Text :=
  if text.isEmpty || text.getLast? == some (.char '\n') then text else text ++ "\n"

/-- The code that a program ends with, and what it says at its end. -/
def exitOf : Ending → UInt32 × Text
  | .code code | .stopped code => (UInt32.ofNat code, [])
  | .mismatch found => (1, found.headline ++ "\n")
  | .failure failure => (1, failure.kind ++ ": " ++ failure.message ++ "\n")

def performHere (settings : Settings) (arguments : List Text) : IO UInt32 := do
  let folder := Folder.ofFiles (← neededFiles arguments)
  let (transcript, session) := perform (unconnected settings) arguments (.start folder ())
  writeNewFiles folder session.folder
  let (code, farewell) := exitOf transcript.ending
  IO.print (handed (closedLine transcript.output))
  IO.eprint (handed (closedLine transcript.notes ++ farewell))
  return code

end PageScript.CommandLine

open PageScript.CommandLine in
def main (arguments : List String) : IO UInt32 := do
  match PageScript.Settings.ofEnvironment (← environment) with
  | .ok settings => performHere settings (arguments.map PageScript.Text.ofString)
  | .error error => do
      IO.eprintln (handed error.message)
      return 1
