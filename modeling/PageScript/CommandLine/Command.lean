import PageScript.CommandLine.Usage
import PageScript.Generation
import PageScript.Suite.Options

namespace PageScript.CommandLine

open Usage

/-- Where the files of a suite are written, and what is chosen about them. -/
structure SuiteArguments where
  folder : Setting
  fileName : Setting
  suiteId : Setting
  pageObjects : Bool
  style : Setting
  deriving DecidableEq, Repr

def SuiteArguments.options (arguments : SuiteArguments) : Except Record.Mismatch Suite.Options :=
  Record.readAs Suite.Options.title Suite.Options.read (.map
    [(Suite.Options.fileNameKey.name, arguments.fileName.data),
     (Suite.Options.suiteIdKey.name, arguments.suiteId.data),
     (Suite.Options.pageObjectsKey.name, .bool arguments.pageObjects),
     (Suite.Options.styleKey.name, arguments.style.data)])

structure BrowserArguments where
  url : Setting
  isHeaded : Bool
  ignoreHttpsErrors : Bool
  deriving DecidableEq, Repr

structure GenerateArguments where
  objective : Text
  username : Setting
  password : Setting
  runId : Setting
  deriving DecidableEq, Repr

/-- The login that the arguments tell, if they tell a user. -/
def GenerateArguments.credentials? (arguments : GenerateArguments) :
    Except Record.Mismatch (Option Credentials) :=
  match Text.nonempty? arguments.username.value? with
  | none => .ok none
  | some username =>
      some <$> Record.readAs Credentials.title Credentials.read (.map
        [(Credentials.usernameKey.name, .text username),
         (Credentials.passwordKey.name, arguments.password.data)])

/-- A command: scenarios are generated, or the scenario of a file is validated or
compiled. -/
inductive Command where
  | generate (arguments : GenerateArguments) (browser : BrowserArguments) (suite : SuiteArguments)
  | validate (path : Text) (browser : BrowserArguments)
  | compile (path : Text) (suite : SuiteArguments)
  deriving DecidableEq, Repr

structure Invocation where
  verbosity : Nat
  command? : Option Command
  deriving DecidableEq, Repr

def programName : Text := "scenarioforge"

def helpOption : OptionSpec := ⟨["-h", "--help"], .help, false⟩
def verboseOption : OptionSpec := ⟨["-v", "--verbose"], .switch, false⟩
def urlOption : OptionSpec := ⟨["--url"], .value none, true⟩
def headedOption : OptionSpec := ⟨["--headed"], .switch, false⟩
def ignoreHttpsErrorsOption : OptionSpec := ⟨["--ignore-https-errors"], .switch, false⟩
def usernameOption : OptionSpec := ⟨["--username"], .value none, false⟩
def passwordOption : OptionSpec := ⟨["--password"], .value none, false⟩
def runIdOption : OptionSpec := ⟨["--run-id"], .value none, false⟩
def fileNameOption : OptionSpec := ⟨["--file-name"], .value none, false⟩
def suiteIdOption : OptionSpec := ⟨["--suite-id"], .value none, false⟩
def folderOption : OptionSpec := ⟨["--output-dir"], .value none, false⟩
def noPageObjectsOption : OptionSpec := ⟨["--no-page-objects"], .switch, false⟩
def styleOption : OptionSpec :=
  ⟨["--selector-strategy"], .value (some (Suite.Style.all.map Suite.Style.label)), false⟩

def browserOptions : List OptionSpec := [urlOption, headedOption, ignoreHttpsErrorsOption]

def suiteOptions : List OptionSpec := [folderOption, noPageObjectsOption, styleOption]

/-- What the program understands in front of a command. -/
def mainUsage : Usage := ⟨programName, [helpOption, verboseOption], []⟩

def commandUsage (name : Text) (words : List Text) (options : List OptionSpec) : Usage :=
  ⟨programName ++ " " ++ name, helpOption :: options, words⟩

def generateUsage : Usage :=
  commandUsage "generate" ["objective"]
    (browserOptions ++
      [usernameOption, passwordOption, runIdOption, fileNameOption, suiteIdOption] ++ suiteOptions)

def validateUsage : Usage := commandUsage "validate" ["scenario"] browserOptions

def compileUsage : Usage :=
  commandUsage "compile" ["scenario"] ([fileNameOption, suiteIdOption] ++ suiteOptions)

/-- The setting of an option that has a value if it was not given. -/
def settingOr (found : Found) (option : OptionSpec) (standard : Text) : Setting :=
  match found.setting option with
  | .absent => .value standard
  | setting => setting

def standardFolder : Text := "generated"

def suiteArguments (found : Found) : SuiteArguments where
  folder := settingOr found folderOption standardFolder
  fileName := found.setting fileNameOption
  suiteId := found.setting suiteIdOption
  pageObjects := found.count noPageObjectsOption == 0
  style := settingOr found styleOption Suite.Style.locator.label

def browserArguments (found : Found) : BrowserArguments where
  url := found.setting urlOption
  isHeaded := found.count headedOption != 0
  ignoreHttpsErrors := found.count ignoreHttpsErrorsOption != 0

def generateArguments (found : Found) : GenerateArguments where
  objective := found.words.headD []
  username := found.setting usernameOption
  password := found.setting passwordOption
  runId := found.setting runIdOption

/-- What each command understands and how it comes from what was read. -/
def commands : List (Text × Usage × (Found → Command)) :=
  [("generate", generateUsage, fun found =>
      .generate (generateArguments found) (browserArguments found) (suiteArguments found)),
   ("validate", validateUsage, fun found =>
      .validate (found.words.headD []) (browserArguments found)),
   ("compile", compileUsage, fun found =>
      .compile (found.words.headD []) (suiteArguments found))]

/-- Reads a command, from its name on; gives it with what was not understood. -/
def readCommand (name : Text) (arguments : List Text) :
    Except Stop (Command × List Text) :=
  match commands.lookup name with
  | none => mainUsage.refuse (.noChoice "command" name (commands.map Prod.fst))
  | some (usage, ofFound) => do
      let found ← usage.read arguments
      return (ofFound found, found.extras)

/-- What stands in front of a command, and the arguments from the command on. -/
def readMain : Nat → Found → List Argument → Except Stop (Found × List Argument)
  | 0, found, rest => .ok (found, rest)
  | _, found, [] => .ok (found, [])
  | fuel + 1, found, argument :: rest =>
      let extra := { found with extras := found.extras ++ [argument.raw] }
      match argument.sense with
      | .unknown => readMain fuel extra rest
      | .option option name value? =>
          match mainUsage.giftOf option name value? with
          | .error error => mainUsage.refuse error
          | .ok gift => do
              let (found, rest) ← mainUsage.readOption found gift rest
              readMain fuel found rest
      | .word => .ok (found, argument :: rest)
      | .separator => if rest.isEmpty then .ok (extra, []) else .ok (found, argument :: rest)

/-- What was asked for, unless something was not understood. -/
def invocation (found : Found) (command? : Option Command) (extras : List Text) :
    Except Stop Invocation :=
  match found.extras ++ extras with
  | [] => .ok ⟨found.count verboseOption, command?⟩
  | unknown => mainUsage.refuse (.unrecognized unknown)

def Invocation.read (arguments : List Text) : Except Stop Invocation :=
  match mainUsage.sensesOf arguments with
  | .error error => mainUsage.refuse error
  | .ok pieces => do
      let (found, rest) ← readMain (pieces.length + 1) .nothing pieces
      match rest with
      | [] => invocation found none []
      | name :: rest => do
          let (command, extras) ← readCommand name.raw (rest.map Argument.raw)
          invocation found (some command) extras

end PageScript.CommandLine
