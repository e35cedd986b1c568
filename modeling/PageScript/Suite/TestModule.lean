import PageScript.Outcome
import PageScript.Suite.PageObject

namespace PageScript.Suite

inductive Statement where
  | call (call : Call)
  /-- A call of a method of the page object, with the step's data if the method
  takes any; a mixed method types if it is told so. -/
  | method (name : Text) (data? : Option Text) (sequentially : Bool)
  deriving DecidableEq, Repr

namespace Statement

/-- The data of a step that puts data into an element. -/
def data? (step : Step) : Option Text :=
  if step.needsData then some (step.data?.getD "") else none

/-- The statement of a step, given the methods of the page object. -/
def ofStep (style : Style) (methods : List Method) (step : Step) : Statement :=
  match Method.find? methods (.ofStep step) with
  | some shared =>
      .method shared.name (data? step) (shared.isMixed && step.action == .type)
  | none => .call (.ofStep style step (.literal (step.data?.getD "")))

/-- The code of a statement; `object` names the page object. -/
def code (object : Text) : Statement → Text
  | .call inline => inline.code "page"
  | .method name data? sequentially =>
      let flags : List Text := if sequentially then ["sequentially=True"] else []
      let arguments := (data?.map Text.codeLiteral).toList ++ flags
      object ++ "." ++ name ++ "(" ++ (", " : Text).intercalate arguments ++ ")"

end Statement

structure Block where
  number : Nat
  action : Action
  remark : Text
  warnings : List Text
  statement : Statement
  deriving DecidableEq, Repr

namespace Block

/-- What is remarked of a step that was not resolved and has no warning. -/
def unresolvedWarning : Text := "target could not be resolved"

def warning? (outcome : Outcome) : Option Text :=
  match outcome.notice? with
  | some warning => some warning
  | none => if outcome.resolved then none else some unresolvedWarning

/-- The warnings for the step at a place, in the order of the outcomes. -/
def warningsFor (index : Nat) (outcomes : List Outcome) : List Text :=
  (outcomes.filter fun outcome => outcome.stepIndex == (index : Int)).filterMap warning?

def ofStep (style : Style) (methods : List Method) (outcomes : List Outcome) (index : Nat)
    (step : Step) : Block where
  number := index + 1
  action := step.action
  remark := if step.description = "" then step.target else step.description
  warnings := warningsFor index outcomes
  statement := .ofStep style methods step

/-- The remarks on the step, and its code. -/
def lines (object : Text) (block : Block) : List Line :=
  .note 4 ("Step " ++ toString block.number ++ ": " ++ block.action.label ++ " ") block.remark ::
  block.warnings.map (Line.note 4 "WARNING: ") ++
  [.code 4 (block.statement.code object)]

end Block

/-- The file with the test of a scenario. -/
structure TestModule where
  suiteId : Text
  scenarioName : Text
  scenarioId : Text
  tags : List Text
  description : Text
  function : Text
  /-- The module and the class of the page object, if there is one. -/
  pageObject? : Option (Text × Text)
  blocks : List Block
  deriving DecidableEq, Repr

namespace TestModule

def preamble (test : TestModule) : List Line :=
  [Line.header,
   Line.note 0 "Suite: " test.suiteId,
   Line.remark 0 ("Scenario: " ++ Text.collapse test.scenarioName ++
     " (" ++ Text.collapse test.scenarioId ++ ")")] ++
  (if test.tags.isEmpty then []
   else [Line.note 0 "Tags: " ((", " : Text).intercalate test.tags)]) ++
  [Line.imports] ++
  (match test.pageObject? with
   | some (moduleName, className) =>
       [Line.empty, Line.code 0 ("from " ++ moduleName ++ " import " ++ className)]
   | none => []) ++
  [Line.empty, Line.empty]

def opening (test : TestModule) : List Line :=
  Line.code 0 ("def test_" ++ test.function ++ "(page: Page):") ::
  (if test.description = "" then [] else [Line.note 4 "" test.description]) ++
  (match test.pageObject? with
   | some (moduleName, className) => [Line.code 4 (moduleName ++ " = " ++ className ++ "(page)")]
   | none => [])

def body (test : TestModule) : List Line :=
  if test.blocks.isEmpty then [.code 4 "pass"]
  else test.blocks.flatMap (Block.lines ((test.pageObject?.map Prod.fst).getD ""))

def lines (test : TestModule) : List Line := test.preamble ++ test.opening ++ test.body

end TestModule

end PageScript.Suite
