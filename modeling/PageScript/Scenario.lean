import PageScript.Text.Blank
import PageScript.Text.Digit

namespace PageScript

inductive Action where
  | goto
  | fill
  | click
  | expect
  | wait
  | type
  | select
  | hover
  deriving DecidableEq, Repr

namespace Action

def label : Action → Text
  | .goto => "goto"
  | .fill => "fill"
  | .click => "click"
  | .expect => "expect"
  | .wait => "wait"
  | .type => "type"
  | .select => "select"
  | .hover => "hover"

/-- The actions, in the order in which messages list them. -/
def all : List Action := [goto, fill, click, expect, wait, type, select, hover]

theorem mem_all (action : Action) : action ∈ all := by
  cases action <;> decide

/-- The actions that put data into an element. -/
def needsData : Action → Bool
  | .fill | .type | .select => true
  | .goto | .click | .expect | .wait | .hover => false

/-- The actions that change the page they are done on. -/
def interacts : Action → Bool
  | .click | .fill | .type | .select | .hover => true
  | .goto | .expect | .wait => false

/-- Actions of one family write to an element in the same way: typing belongs to
filling. -/
def family : Action → Action
  | .type => .fill
  | action => action

end Action

/-- One step: an action, the selector or address it is done on, the text it
needs, and why it is done. -/
structure Step where
  action : Action
  target : Text
  data? : Option Text
  description : Text
  deriving DecidableEq, Repr

namespace Step

def needsData (step : Step) : Bool := step.action.needsData

/-- Whether the step lacks data that it needs. -/
def lacksData (step : Step) : Bool := step.needsData && step.data?.isNone

/-- The digits of a target that is a number. -/
def targetDigits? (step : Step) : Option Text :=
  let s := Text.trim step.target
  if !s.isEmpty && s.all Text.isDecimal then some s else none

/-- Whether the target is a selector.  The target of `goto` is an address, and
a `wait` for a number waits that many milliseconds. -/
def seeksElement (step : Step) : Bool :=
  match step.action with
  | .goto => false
  | .wait => step.targetDigits?.isNone
  | _ => true

/-- A step that waits for a number of milliseconds. -/
def IsPause (step : Step) : Prop :=
  step.action = .wait ∧ Text.trim step.target ≠ [] ∧
    ∀ c ∈ Text.trim step.target, Text.isDecimal c = true

instance : DecidablePred IsPause := fun _ => inferInstanceAs (Decidable (_ ∧ _ ∧ _))

theorem seeksElement_eq_false_iff {step : Step} :
    step.seeksElement = false ↔ step.action = .goto ∨ step.IsPause := by
  unfold seeksElement IsPause
  cases step.action with
  | goto => simp
  | wait => simp [targetDigits?]
  | fill | click | expect | type | select | hover => simp

end Step

/-- A test: its steps, and what it is known by. -/
structure Scenario where
  id : Text
  name : Text
  description? : Option Text
  steps : List Step
  tags : List Text
  deriving DecidableEq, Repr

/-- The places of the items that satisfy `p`, the first item having place `i`. -/
def placesFrom {α : Type} (p : α → Bool) (i : Nat) : List α → List Nat
  | [] => []
  | a :: rest => if p a then i :: placesFrom p (i + 1) rest else placesFrom p (i + 1) rest

/-- The places of the steps that lack data, counted from zero. -/
def Scenario.stepsLackingData (scenario : Scenario) : List Nat :=
  placesFrom Step.lacksData 0 scenario.steps

/-- A scenario as a language model proposes it, not yet known by an id. -/
structure Draft where
  name : Text
  description? : Option Text
  tags : List Text
  steps : List Step
  deriving DecidableEq, Repr

def Draft.toScenario (draft : Draft) (id : Text) : Scenario :=
  ⟨id, draft.name, draft.description?, draft.steps, draft.tags⟩

end PageScript
