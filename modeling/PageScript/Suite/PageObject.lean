import PageScript.Name
import PageScript.Suite.Call

namespace PageScript.Suite

/-- What the steps that share a method have in common: the target, and the
family of the action. -/
structure Use where
  target : Text
  family : Action
  deriving DecidableEq, Repr

def Use.ofStep (step : Step) : Use := ⟨step.target, step.action.family⟩

/-- The uses of elements by some steps, in the order in which they first appear,
each with the actions of its steps in order. -/
abbrev Uses := List (Use × List Action)

def Uses.add (use : Use) (action : Action) : Uses → Uses
  | [] => [(use, [action])]
  | (other, actions) :: rest =>
      if other = use then (other, actions ++ [action]) :: rest
      else (other, actions) :: Uses.add use action rest

def Uses.ofSteps (steps : List Step) : Uses :=
  (steps.filter Step.seeksElement).foldl
    (fun uses step => uses.add (.ofStep step) step.action) []

structure Method where
  name : Text
  use : Use
  /-- The different actions of its steps, in the order of their first appearance. -/
  actions : List Action
  deriving DecidableEq, Repr

namespace Method

/-- A method that both fills and types is told which of the two to do. -/
def isMixed (method : Method) : Bool := 1 < method.actions.length

/-- The action of the first step that uses the method. -/
def action (method : Method) : Action := method.actions.headD method.use.family

/-- The name with a number behind it. -/
def numbered (name : Text) (n : Nat) : Text := name ++ "_" ++ toString n

/-- The name itself if it is not taken, and otherwise the name with the first
number from two on that makes it so. -/
def freshName (taken : List Text) (name : Text) : Text :=
  if taken.contains name then
    (((List.range taken.length).map fun i => numbered name (i + 2)).find?
      fun candidate => !taken.contains candidate).getD name
  else name

/-- The name that a use asks for: the first action and the slug of the target,
or a number for a target that has none. -/
def wantedName (use : Use) (action : Action) (count : Nat) : Text :=
  let slug := Name.slug use.target
  if slug = "" then action.label ++ "_element_" ++ toString (count + 1)
  else action.label ++ "_" ++ slug

/-- The methods with one for a further use, unless the use has only one step. -/
def addFor (methods : List Method) (use : Use) (actions : List Action) : List Method :=
  match actions with
  | first :: _ :: _ =>
      let name := freshName (methods.map Method.name) (wantedName use first methods.length)
      methods ++ [⟨name, use, actions.eraseDups⟩]
  | _ => methods

def ofSteps (steps : List Step) : List Method :=
  (Uses.ofSteps steps).foldl (fun methods (use, actions) => addFor methods use actions) []

def find? (methods : List Method) (use : Use) : Option Method :=
  methods.find? fun method => method.use = use

def lines (style : Style) (method : Method) : List Line :=
  let element := Locator.ofTarget style method.use.target
  if method.isMixed then
    [.empty,
     .code 4 ("def " ++ method.name ++ "(self, value: str, sequentially: bool = False):"),
     .code 8 ("locator = " ++ element.code "self.page"),
     .code 8 "if sequentially:",
     .code 12 "locator.press_sequentially(value)",
     .code 8 "else:",
     .code 12 "locator.fill(value)"]
  else
    let parameter := if method.action.needsData then ", value: str" else ""
    [.empty,
     .code 4 ("def " ++ method.name ++ "(self" ++ parameter ++ "):"),
     .code 8 ((Call.onElement method.action element .parameter).code "self.page")]

end Method

/-- A class whose methods use the elements of a page. -/
structure PageObject where
  moduleName : Text
  className : Text
  scenarioName : Text
  methods : List Method
  deriving DecidableEq, Repr

namespace PageObject

/-- The page object of a scenario, if it has any methods. -/
def ofScenario? (scenario : Scenario) : Option PageObject :=
  match Method.ofSteps scenario.steps with
  | [] => none
  | methods =>
      let base := Name.uniqueModuleName scenario.name
      some ⟨base ++ "_page", Name.className base ++ "Page", scenario.name, methods⟩

def lines (style : Style) (object : PageObject) : List Line :=
  [Line.header,
   Line.note 0 "Page object for scenario: " object.scenarioName,
   Line.imports,
   Line.empty,
   Line.empty,
   Line.code 0 ("class " ++ object.className ++ ":"),
   Line.code 4 "def __init__(self, page: Page):",
   Line.code 8 "self.page = page"] ++
  object.methods.flatMap (Method.lines style)

end PageObject

end PageScript.Suite
