import PageScript.Text.Integer

namespace PageScript

abbrev Environment := List (Text × Text)

structure Settings where
  apiKey? : Option Text
  baseUrl? : Option Text
  model : Text
  headless : Bool
  /-- Milliseconds. -/
  navigationTimeout : Int
  /-- Milliseconds. -/
  stepTimeout : Int
  logLevel : Text
  deriving DecidableEq, Repr

namespace Settings

def valueOf? (environment : Environment) (name : Text) : Option Text := environment.lookup name

def integerOf (environment : Environment) (name default : Text) :
    Except Text.IntegerError Int :=
  Text.integer ((valueOf? environment name).getD default)

/-- The settings of an environment.  The address of the model has two names, of
which the longer one counts more; only the word `false`, in any case, shows the
browser window. -/
def ofEnvironment (environment : Environment) : Except Text.IntegerError Settings := do
  let navigationTimeout ← integerOf environment "NAVIGATION_TIMEOUT_MS" "30000"
  let stepTimeout ← integerOf environment "STEP_TIMEOUT_MS" "10000"
  let headless := (valueOf? environment "BROWSER_HEADLESS").getD "true"
  return {
    apiKey? := valueOf? environment "OPENAI_API_KEY"
    baseUrl? := 
      valueOf? environment "OPENAI_API_BASE_URL" <|> valueOf? environment "OPENAI_BASE_URL"
    model := (valueOf? environment "OPENAI_MODEL").getD "gpt-4o"
    headless := headless.map CodePoint.toLower != "false"
    navigationTimeout
    stepTimeout
    logLevel := (valueOf? environment "LOG_LEVEL").getD "" }

def hasApiKey (settings : Settings) : Bool := (Text.nonempty? settings.apiKey?).isSome

end Settings

namespace Threshold

def names : List (Text × Nat) :=
  [("CRITICAL", 50), ("FATAL", 50), ("ERROR", 40), ("WARN", 30), ("WARNING", 30), ("INFO", 20),
   ("DEBUG", 10), ("NOTSET", 0)]

/-- The capital of a letter, as far as it is a single letter of ASCII: besides
the letters of ASCII, the dotless i and the long s have one. -/
def capital (c : CodePoint) : CodePoint :=
  if c == 'ı' then 'I' else if c == 'ſ' then 'S' else c.toUpper

/-- The rank that a record must have to be shown: wishes for more output on the
command line come first, then the configured level; the name of no level is
the same as that of warnings. -/
def of (verbosity : Int) (configured : Text) : Nat :=
  if 2 ≤ verbosity then 10
  else if 1 ≤ verbosity then 20
  else
    let name := (Text.trim configured).map capital
    (names.lookup name).getD 30

end Threshold

end PageScript
