import PageScript.Suite.TestModule

namespace PageScript.Suite

open Record

inductive CompileError where
  /-- Some steps lack data that they need; their places count from zero. -/
  | lacksData (scenarioName : Text) (steps : List Nat)
  /-- A name would have to be made of a text with surrogates. -/
  | noName (found : Text.Unencodable)
  /-- The duration of a pause has more digits than are read. -/
  | pauseTooLong (digits : Nat)
  deriving DecidableEq, Repr

def CompileError.message : CompileError → Text
  | .lacksData scenarioName steps =>
      "Scenario '" ++ scenarioName ++ "' has steps without required data: " ++
        (", " : Text).intercalate (steps.map fun i => toString (i + 1))
  | .noName found => found.message
  | .pauseTooLong digits => (Text.IntegerError.tooManyDigits digits).message

/-- A test module and the page object it uses, if there is one. -/
structure Compiled where
  testFileName : Text
  style : Style
  pageObject? : Option PageObject
  test : TestModule
  deriving DecidableEq, Repr

/-- The number of digits of a pause that is too long to be written. -/
def excessDigits? (step : Step) : Option Nat :=
  if step.action == .wait then
    (step.targetDigits?.map List.length).filter fun n => Text.maxDigits < n
  else none

def suitePrefix : Text := "suite_"

def suiteIdOf (options : Options) (scenario : Scenario) : Text :=
  Name.identifier (options.suiteId?.getD "")
    (Name.identifier (suitePrefix ++ scenario.id) "suite")

def testFileNameOf (options : Options) (scenario : Scenario) : Text :=
  Name.fileName (options.fileName?.getD "")
    ("test_" ++ Name.uniqueModuleName scenario.name ++ ".py")

/-- The suite of a scenario all of whose steps can be written. -/
def ofScenario (scenario : Scenario) (options : Options) (outcomes : List Outcome) : Compiled :=
  let pageObject? := if options.pageObjects then PageObject.ofScenario? scenario else none
  let methods := (pageObject?.map PageObject.methods).getD []
  { testFileName := testFileNameOf options scenario
    style := options.style
    pageObject? := pageObject?
    test :=
      { suiteId := suiteIdOf options scenario
        scenarioName := scenario.name
        scenarioId := scenario.id
        tags := scenario.tags
        description := scenario.description?.getD ""
        function := Name.moduleName scenario.name
        pageObject? := pageObject?.map fun object => (object.moduleName, object.className)
        blocks := scenario.steps.zipIdx.map fun (step, index) =>
          Block.ofStep options.style methods outcomes index step } }

/-- A file of code and the module it is. -/
structure SourceFile where
  name : Text
  source : Text
  deriving DecidableEq, Repr

structure Artifact where
  testFileName : Text
  suiteId : Text
  pageObjects : List SourceFile
  testSource : Text
  deriving DecidableEq, Repr

def SourceFile.ofPageObject (style : Style) (object : PageObject) : SourceFile :=
  ⟨object.moduleName, Line.file (object.lines style)⟩

def Compiled.artifact (suite : Compiled) : Artifact where
  testFileName := suite.testFileName
  suiteId := suite.test.suiteId
  pageObjects := (suite.pageObject?.map (SourceFile.ofPageObject suite.style)).toList
  testSource := Line.file suite.test.lines

/-- The texts that the names of a suite are made of, in the order in which they
are named. -/
def namedTexts (scenario : Scenario) (options : Options) : List Text :=
  [scenario.name] ++ options.fileName?.toList ++ [suitePrefix ++ scenario.id] ++
    options.suiteId?.toList

/-- What keeps a scenario from being compiled.  Missing data comes first, then a
text that makes no name, then a pause that is too long. -/
def compileError? (scenario : Scenario) (options : Options) : Option CompileError :=
  match scenario.stepsLackingData with
  | [] =>
      ((namedTexts scenario options).findSome? Text.unencodable?).map CompileError.noName <|>
        (scenario.steps.findSome? excessDigits?).map CompileError.pauseTooLong
  | steps => some (.lacksData scenario.name steps)

def compile (scenario : Scenario) (options : Options) (outcomes : List Outcome) :
    Except CompileError Artifact :=
  match compileError? scenario options with
  | some error => .error error
  | none => .ok (ofScenario scenario options outcomes).artifact

namespace SourceFile

def title : Text := "PageObject"

def nameKey : Key := .camelCase "name"
def sourceKey : Key := .camelCase "source"

def read : Reader SourceFile := Reader.record title fun entries =>
  SourceFile.mk <$> required nameKey Reader.text entries
    <*> required sourceKey Reader.text entries

def dump (file : SourceFile) : Dump := .record
  [(nameKey, .text file.name), (sourceKey, .text file.source)]

end SourceFile

namespace Artifact

def title : Text := "CompilationArtifact"

def testFileNameKey : Key := .camelCase "test_file_name"
def suiteIdKey : Key := .camelCase "suite_id"
def pageObjectsKey : Key := .camelCase "page_objects"
def testSourceKey : Key := ⟨"test_source", "ts"⟩

def read : Reader Artifact := Reader.record title fun entries =>
  Artifact.mk <$> required testFileNameKey Reader.text entries
    <*> required suiteIdKey Reader.text entries
    <*> optional pageObjectsKey [] (Reader.list SourceFile.read) entries
    <*> required testSourceKey Reader.text entries

def dump (artifact : Artifact) : Dump := .record
  [(testFileNameKey, .text artifact.testFileName), (suiteIdKey, .text artifact.suiteId),
   (pageObjectsKey, .list (artifact.pageObjects.map SourceFile.dump)),
   (testSourceKey, .text artifact.testSource)]

/-- The files of the suite, in the order in which they are written: name and
text. -/
def files (artifact : Artifact) : List (Text × Text) :=
  artifact.pageObjects.map (fun file => (file.name ++ Name.fileSuffix, file.source)) ++
    [(artifact.testFileName, artifact.testSource)]

end Artifact

end PageScript.Suite
