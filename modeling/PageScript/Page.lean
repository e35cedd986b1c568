import PageScript.Routine
import PageScript.Scenario

namespace PageScript

inductive Interaction where
  | click (selector : Text)
  | fill (selector text : Text)
  | select (selector option : Text)
  | hover (selector : Text)
  deriving DecidableEq, Repr

namespace Interaction

def selector : Interaction → Text
  | .click selector | .fill selector _ | .select selector _ | .hover selector => selector

/-- What is written to the element or chosen in it. -/
def text? : Interaction → Option Text
  | .fill _ text => some text
  | .select _ option => some option
  | .click _ | .hover _ => none

/-- The interaction of a step; typing fills. -/
def ofStep? (step : Step) : Option Interaction :=
  let text := step.data?.getD ""
  match step.action with
  | .click => some (.click step.target)
  | .fill | .type => some (.fill step.target text)
  | .select => some (.select step.target text)
  | .hover => some (.hover step.target)
  | .goto | .expect | .wait => none

end Interaction

/-- A page, over a state of type `σ` in which everything it does takes place.
Its elements are known by handles of type `η`. -/
structure Page (σ η : Type) where
  visit : Text → Routine σ Unit
  /-- The first element that a selector matches. -/
  find : Text → Routine σ (Option η)
  attributeOf : η → Text → Routine σ (Option Text)
  textOf : η → Routine σ (Option Text)
  perform : Interaction → Routine σ Unit
  close : Routine σ Unit

/-- The same page as part of a larger state. -/
def Page.within {σ τ η : Type} (part : τ → σ) (put : σ → τ → τ) (page : Page σ η) :
    Page τ η where
  visit url := (page.visit url).within part put
  find selector := (page.find selector).within part put
  attributeOf element name := (page.attributeOf element name).within part put
  textOf element := (page.textOf element).within part put
  perform interaction := (page.perform interaction).within part put
  close := page.close.within part put

end PageScript
