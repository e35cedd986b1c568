import PageScript.Outcome
import PageScript.Page
import PageScript.Selector.Kind

namespace PageScript.Resolution

/-- What a stable selector can be made from. -/
inductive Tier where
  | testId
  | id
  | ariaLabel
  | role
  | text
  deriving DecidableEq, Repr

namespace Tier

def label : Tier → Text
  | .testId => "data-testid"
  | .id => "id"
  | .ariaLabel => "aria-label"
  | .role => "role"
  | .text => "text"

/-- The strategy that a selector of this tier stands for. -/
def strategy : Tier → Strategy
  | .testId => .testId
  | .id => .cssFallback
  | .ariaLabel => .ariaLabel
  | .role => .role
  | .text => .text

/-- The selector of this tier for the value of its attribute. -/
def selector (tier : Tier) (value : Text) : Text :=
  match tier with
  | .testId => Selector.ofTestId value
  | .id => Selector.ofId value
  | .ariaLabel => Selector.ofAriaLabel value
  | .role => Selector.ofRole value
  | .text => value

def forClick : List Tier := [testId, ariaLabel, role, text]

/-- The tiers for elements that data is put into. -/
def forInput : List Tier := [testId, id, ariaLabel]

/-- The tiers for elements that are only looked at. -/
def forOther : List Tier := [testId, ariaLabel, role]

def forAction : Action → List Tier
  | .click | .hover => forClick
  | .fill | .type | .select => forInput
  | .goto | .expect | .wait => forOther

end Tier

variable {σ η : Type}

def candidate (page : Page σ η) (element : η) (tier : Tier) : Routine σ (Option Text) :=
  match tier with
  | .text => do
      let text? ← page.textOf element
      return Selector.ofText? text?
  | tier => do
      let value? ← page.attributeOf element tier.label
      return (value?.filter fun value => !Text.isBlankText value).map tier.selector

/-- The first candidate of some tiers; no tier behind it is looked at. -/
def firstCandidate (page : Page σ η) (element : η) :
    List Tier → Routine σ (Option (Tier × Text))
  | [] => return none
  | tier :: rest => do
      match ← candidate page element tier with
      | some selector => return some (tier, selector)
      | none => firstCandidate page element rest

/-- The candidates of all of some tiers. -/
def candidates (page : Page σ η) (element : η) : List Tier → Routine σ (List Text)
  | [] => return []
  | tier :: rest => do
      let candidate? ← candidate page element tier
      let more ← candidates page element rest
      return candidate?.toList ++ more

def notFound : Text := "target not found"

def noAlternative : Text := "no stable alternative found; keeping original selector"

def kept (step : Step) (index : Int) (resolved : Bool) (strategy : Strategy)
    (warning? : Option Text) : Outcome :=
  ⟨index, resolved, step.target, step.target, strategy, warning?⟩

/-- The outcome for a step whose element offers a better target. -/
def improved (step : Step) (index : Int) (tier : Tier) (selector : Text) : Outcome :=
  ⟨index, true, step.target, selector, tier.strategy, none⟩

/-- The outcome for a step whose target matches an element but is not stable. -/
def stabilize (page : Page σ η) (step : Step) (index : Int) (element : η) :
    Routine σ Outcome := do
  match ← firstCandidate page element (Tier.forAction step.action) with
  | some (.id, selector) =>
      if selector == Text.trim step.target then
        return kept step index true .unchanged none
      else
        Routine.log .info ("  - Resolved '" ++ step.target ++ "' -> " ++ selector ++ " (element id)")
        return improved step index .id selector
  | some (tier, selector) =>
      Routine.log .info
        ("  - Resolved '" ++ step.target ++ "' -> " ++ selector ++ " (" ++ tier.label ++ ")")
      return improved step index tier selector
  | none =>
      Routine.log .info ("  - No stable alternative for '" ++ step.target ++ "'")
      return kept step index true .cssFallback (some noAlternative)

/-- The outcome for a step whose target is a selector, unless the page fails. -/
def resolveElement (page : Page σ η) (step : Step) (index : Int) : Routine σ Outcome := do
  match ← page.find step.target with
  | none =>
      Routine.log .warning
        ("  - Could not resolve '" ++ step.target ++ "' (" ++ step.description ++ ")")
      return kept step index false .unchanged (some notFound)
  | some element =>
      if Selector.isStable step.target then
        Routine.log .debug ("  - '" ++ step.target ++ "' already uses a stable dialect")
        return kept step index true .unchanged none
      else stabilize page step index element

/-- The outcome for a step.  A failure of the page leaves the step unresolved. -/
def resolve (page : Page σ η) (step : Step) (index : Int) : Routine σ Outcome :=
  if step.seeksElement then
    (resolveElement page step index).orElse fun failure => do
      Routine.log .warning ("  - Could not validate '" ++ step.target ++ "': " ++ failure.message)
      return kept step index false .unchanged (some failure.summary)
  else return kept step index true .unchanged none

/-- Every stable selector for the element that a selector matches, the best one
first. -/
def suggest (page : Page σ η) (selector : Text) : Routine σ (List Text) := do
  match ← page.find selector with
  | none => return []
  | some element => candidates page element Tier.forClick

end PageScript.Resolution
