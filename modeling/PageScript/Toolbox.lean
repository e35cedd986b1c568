import PageScript.Resolution

namespace PageScript.Toolbox

open Record

inductive Tool where
  | validateSelector
  | suggestSelectors
  | elementText
  | elementAttributes
  deriving DecidableEq, Repr

namespace Tool

def name : Tool → Text
  | .validateSelector => "validate_selector"
  | .suggestSelectors => "suggest_stable_selectors"
  | .elementText => "get_element_text"
  | .elementAttributes => "get_element_attributes"

def description : Tool → Text
  | .validateSelector =>
      "Check that a selector matches an element on the page and propose a more stable one"
  | .suggestSelectors => "List stable selectors for an element, best first"
  | .elementText => "Get the trimmed text content of an element"
  | .elementAttributes => "Get attributes of an element (missing ones are null)"

def title : Tool → Text
  | .validateSelector => "ValidateSelectorArgs"
  | .suggestSelectors => "SuggestStableSelectorsArgs"
  | .elementText => "GetElementTextArgs"
  | .elementAttributes => "GetElementAttributesArgs"

def all : List Tool := [validateSelector, suggestSelectors, elementText, elementAttributes]

def ofName? (name : Text) : Option Tool := all.find? fun tool => tool.name = name

end Tool

inductive Context where
  | validation
  | improvement
  | testing
  deriving DecidableEq, Repr

def Context.label : Context → Text
  | .validation => "validation"
  | .improvement => "improvement"
  | .testing => "testing"

def Context.all : List Context := [.validation, .improvement, .testing]

def Context.read : Reader Context :=
  Reader.word .noneOf (Context.all.map fun context => (context.label, context))

/-- The attributes that are read when none are asked for. -/
def usualAttributes : List Text := ["id", "data-testid", "aria-label", "role"]

inductive Call where
  | validateSelector (selector : Text) (context : Context) (action : Action)
  | suggestSelectors (selector : Text)
  | elementText (selector : Text)
  | elementAttributes (selector : Text) (attributes : List Text)
  deriving DecidableEq, Repr

namespace Call

def tool : Call → Tool
  | .validateSelector _ _ _ => .validateSelector
  | .suggestSelectors _ => .suggestSelectors
  | .elementText _ => .elementText
  | .elementAttributes _ _ => .elementAttributes

def selectorKey : Key := .plain "selector"
def contextKey : Key := .plain "context"
def actionKey : Key := .plain "action"
def attributesKey : Key := .plain "attributes"

def read (tool : Tool) : Reader Call := Reader.record tool.title fun entries =>
  match tool with
  | .validateSelector =>
      validateSelector <$> required selectorKey Reader.text entries
        <*> optional contextKey .validation Context.read entries
        <*> optional actionKey .click Action.read entries
  | .suggestSelectors => suggestSelectors <$> required selectorKey Reader.text entries
  | .elementText => elementText <$> required selectorKey Reader.text entries
  | .elementAttributes =>
      elementAttributes <$> required selectorKey Reader.text entries
        <*> optional attributesKey usualAttributes (Reader.list Reader.text) entries

/-- The arguments of a call, as a record. -/
def dump : Call → Dump
  | .validateSelector selector context action => .record
      [(selectorKey, .text selector), (contextKey, .text context.label),
       (actionKey, .text action.label)]
  | .suggestSelectors selector | .elementText selector => .record [(selectorKey, .text selector)]
  | .elementAttributes selector attributes => .record
      [(selectorKey, .text selector), (attributesKey, .texts attributes)]

/-- The arguments of a call, as the log shows them. -/
def arguments : Call → Text
  | .validateSelector selector context action =>
      "selector=" ++ Text.quoted selector ++ " context=" ++ Text.quoted context.label ++
        " action=" ++ Text.quoted action.label
  | .suggestSelectors selector | .elementText selector => "selector=" ++ Text.quoted selector
  | .elementAttributes selector attributes =>
      "selector=" ++ Text.quoted selector ++ " attributes=" ++ Text.quotedList attributes

end Call

inductive Answer where
  | check (isValid : Bool) (strategy : Strategy) (improved? : Option Text)
      (warning? : Option Text)
  | suggestions (selector : Text) (found : List Text)
  | text (selector content : Text)
  /-- Each attribute once, in the order in which they were asked for. -/
  | attributes (selector : Text) (values : List (Text × Option Text))
  deriving DecidableEq, Repr

namespace Answer

def field (name : Text) (value : Dump) : Key × Dump := (.plain name, value)

/-- The answer as a record.  What is not known of a check is left out. -/
def dump : Answer → Dump
  | .check isValid strategy improved? warning? => .record
      ([field "isValid" (.bool isValid), field "strategy" (.text strategy.label)] ++
       (improved?.map fun selector => field "improvedSelector" (.text selector)).toList ++
       (warning?.map fun warning => field "warning" (.text warning)).toList)
  | .suggestions selector found => .record
      [field "selector" (.text selector), field "suggestions" (.texts found)]
  | .text selector content => .record
      [field "selector" (.text selector), field "textContent" (.text content)]
  | .attributes selector values => .record
      [field "selector" (.text selector),
       field "attributes" (.record (values.map fun (name, value?) => field name (.text? value?)))]

end Answer

inductive Error where
  | unknownTool (name : Text)
  | badArguments (tool : Tool) (mismatch : Mismatch)
  /-- The selector to be checked can be the target of no step. -/
  | badTarget (mismatch : Mismatch)
  | noElement (selector : Text)
  deriving DecidableEq, Repr

def Error.message : Error → Text
  | .unknownTool name => "Unknown tool: " ++ name
  | .badArguments tool mismatch =>
      "Invalid arguments for " ++ tool.name ++ ": " ++ mismatch.headline
  | .badTarget _ => ""
  | .noElement selector => "Element with selector '" ++ selector ++ "' not found"

variable {σ η : Type}

/-- The step that stands for the check of a selector. -/
def stepFor (selector : Text) (context : Context) (action : Action) :
    Except Mismatch Step :=
  match Step.readTarget (.text selector) with
  | .valid target => .ok ⟨action, target, none, context.label ++ " via tool call"⟩
  | .invalid issues =>
      .error ⟨Step.title, issues.map fun issue =>
        { issue with path := .key Step.targetKey.label :: issue.path }⟩

/-- What an outcome says about a selector. -/
def checkOf (selector : Text) (outcome : Outcome) : Answer :=
  .check outcome.resolved outcome.strategy
    (if outcome.finalTarget = selector then none else some outcome.finalTarget)
    outcome.notice?

def readAttributes (page : Page σ η) (element : η) :
    List Text → Routine σ (List (Text × Option Text))
  | [] => return []
  | name :: rest => do
      let value? ← page.attributeOf element name
      let more ← readAttributes page element rest
      return (name, value?) :: more

/-- The pairs of a list, each name once, with the value that it has last. -/
def lastValues (pairs : List (Text × Option Text)) : List (Text × Option Text) :=
  (pairs.map Prod.fst).eraseDups.map fun name => (name, (pairs.reverse.lookup name).join)

/-- Does something with the element that a selector matches. -/
def withElement (page : Page σ η) (selector : Text) (use : η → Routine σ Answer) :
    Routine σ (Except Error Answer) := do
  match ← page.find selector with
  | none => return .error (.noElement selector)
  | some element =>
      let answer ← use element
      return .ok answer

def answer (page : Page σ η) : Call → Routine σ (Except Error Answer)
  | .validateSelector selector context action =>
      match stepFor selector context action with
      | .error mismatch => return .error (.badTarget mismatch)
      | .ok step => do
          let outcome ← Resolution.resolve page step 0
          return .ok (checkOf selector outcome)
  | .suggestSelectors selector => do
      let found ← (Resolution.suggest page selector).orElse fun failure => do
        Routine.log .warning
          ("Could not suggest stable selectors for '" ++ selector ++ "': " ++ failure.message)
        return []
      return .ok (.suggestions selector found)
  | .elementText selector =>
      withElement page selector fun element => do
        let text? ← page.textOf element
        return .text selector (Text.trim (text?.getD ""))
  | .elementAttributes selector attributes =>
      withElement page selector fun element => do
        let pairs ← readAttributes page element attributes
        return .attributes selector (lastValues pairs)

/-- Arguments that say nothing: none, zero, false, or an empty text, list or map. -/
def isNothing : Datum → Bool
  | .null => true
  | .bool b => !b
  | .int n => n == 0
  | .float x => x.magnitude == 0
  | .moment _ => false
  | .text s => s.isEmpty
  | .bytes bytes => bytes.isEmpty
  | .list items => items.isEmpty
  | .map entries => entries.isEmpty

/-- Calls a tool by its name.  Arguments that say nothing count as an empty
record. -/
def call (page : Page σ η) (name : Text) (arguments : Datum) :
    Routine σ (Except Error Answer) :=
  match Tool.ofName? name with
  | none => return .error (.unknownTool name)
  | some tool =>
      match readAs tool.title (Call.read tool) (if isNothing arguments then .map [] else arguments)
        with
      | .error mismatch => return .error (.badArguments tool mismatch)
      | .ok call => do
          Routine.log .debug ("Tool call " ++ tool.name ++ "(" ++ call.arguments ++ ")")
          answer page call

/-! The descriptions of the tools for the host. -/

def textArgument (key : Key) (title : Text) (more : List (Key × Dump)) : Key × Dump :=
  (key, .record ([Answer.field "title" (.text title), Answer.field "type" (.text "string")] ++ more))

def selectorArgument : Key × Dump := textArgument Call.selectorKey "Selector" []

def wordArgument (key : Key) (title : Text) (words : List Text) (default : Text) :
    Key × Dump :=
  textArgument key title
    [Answer.field "default" (.text default), Answer.field "enum" (.texts words)]

def argumentsOf : Tool → List (Key × Dump)
  | .validateSelector =>
      [selectorArgument,
       wordArgument Call.contextKey "Context" (Context.all.map Context.label)
         Context.validation.label,
       wordArgument Call.actionKey "Action" (Action.all.map Action.label) Action.click.label]
  | .suggestSelectors | .elementText => [selectorArgument]
  | .elementAttributes =>
      [selectorArgument,
       (Call.attributesKey, .record
         [Answer.field "items" (.record [Answer.field "type" (.text "string")]),
          Answer.field "title" (.text "Attributes"), Answer.field "type" (.text "array")])]

def schema (tool : Tool) : Dump := .record
  [Answer.field "properties" (.record (argumentsOf tool)),
   Answer.field "required" (.texts [Call.selectorKey.name]),
   Answer.field "title" (.text tool.title), Answer.field "type" (.text "object")]

/-- The tools, as they are made known to the host. -/
def catalogue : List Dump := Tool.all.map fun tool => .record
  [Answer.field "name" (.text tool.name), Answer.field "description" (.text tool.description),
   Answer.field "inputSchema" (schema tool)]

end PageScript.Toolbox
