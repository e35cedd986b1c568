import PageScript.Proofs.RoutineSteps
import PageScript.Validation
/-!
Pages that are related, method by method, are validated in related ways.  What is
to be shown of everything that validation does on a page need only be shown of the
methods of the page.
-/

namespace PageScript

variable {σ τ η : Type}

namespace Routine

/-- A relation between routines on two kinds of states that is kept when routines
are put together. -/
structure IsCongruence (R : ∀ {α : Type}, Routine τ α → Routine σ α → Prop) : Prop where
  done : ∀ {α : Type} (a : α), R (pure a) (pure a)
  log : ∀ level message, R (log level message) (log level message)
  bind : ∀ {α β : Type} {first' : Routine τ α} {first : Routine σ α} {next' : α → Routine τ β}
    {next : α → Routine σ β}, R first' first → (∀ a, R (next' a) (next a)) →
    R (first' >>= next') (first >>= next)
  outcome : ∀ {α : Type} {routine' : Routine τ α} {routine : Routine σ α}, R routine' routine →
    R routine'.outcome routine.outcome

end Routine

/-- Pages whose ways to look at elements are related. -/
structure Page.ReadsRelated (R : ∀ {α : Type}, Routine τ α → Routine σ α → Prop)
    (page' : Page τ η) (page : Page σ η) : Prop where
  find : ∀ selector, R (page'.find selector) (page.find selector)
  attributeOf : ∀ element name, R (page'.attributeOf element name) (page.attributeOf element name)
  textOf : ∀ element, R (page'.textOf element) (page.textOf element)

/-- Pages that are related in all that validation does on a page before it is closed. -/
structure Page.Related (R : ∀ {α : Type}, Routine τ α → Routine σ α → Prop)
    (page' : Page τ η) (page : Page σ η) : Prop extends Page.ReadsRelated R page' page where
  visit : ∀ url, R (page'.visit url) (page.visit url)
  perform : ∀ interaction, R (page'.perform interaction) (page.perform interaction)

variable {R : ∀ {α : Type}, Routine τ α → Routine σ α → Prop}

namespace Routine.IsCongruence

theorem orElse (hR : IsCongruence R) {α : Type} {routine' : Routine τ α} {routine : Routine σ α}
    {handle' : Failure → Routine τ α} {handle : Failure → Routine σ α}
    (hroutine : R routine' routine) (hhandle : ∀ failure, R (handle' failure) (handle failure)) :
    R (routine'.orElse handle') (routine.orElse handle) := by
  refine hR.bind (hR.outcome hroutine) fun ended => ?_
  cases ended with
  | ok value => exact hR.done value
  | error failure => exact hhandle failure

end Routine.IsCongruence

namespace Resolution

open Routine

variable {page' : Page τ η} {page : Page σ η}

theorem related_candidate (hR : IsCongruence R) (hpages : Page.ReadsRelated R page' page)
    (element : η) (tier : Tier) :
    R (candidate page' element tier) (candidate page element tier) := by
  unfold candidate
  split
  · exact hR.bind (hpages.textOf element) fun text? => hR.done _
  · exact hR.bind (hpages.attributeOf element _) fun value? => hR.done _

theorem related_firstCandidate (hR : IsCongruence R) (hpages : Page.ReadsRelated R page' page)
    (element : η) (tiers : List Tier) :
    R (firstCandidate page' element tiers) (firstCandidate page element tiers) := by
  induction tiers with
  | nil => exact hR.done none
  | cons tier tiers ih =>
      refine hR.bind (related_candidate hR hpages element tier) fun found => ?_
      cases found with
      | some selector => exact hR.done _
      | none => exact ih

theorem related_stabilize (hR : IsCongruence R) (hpages : Page.ReadsRelated R page' page)
    (step : Step) (index : Int) (element : η) :
    R (stabilize page' step index element) (stabilize page step index element) := by
  refine hR.bind (related_firstCandidate hR hpages element _) fun found => ?_
  split
  · split
    · exact hR.done _
    · exact hR.bind (hR.log _ _) fun _ => hR.done _
  · exact hR.bind (hR.log _ _) fun _ => hR.done _
  · exact hR.bind (hR.log _ _) fun _ => hR.done _

theorem related_resolveElement (hR : IsCongruence R) (hpages : Page.ReadsRelated R page' page)
    (step : Step) (index : Int) :
    R (resolveElement page' step index) (resolveElement page step index) := by
  refine hR.bind (hpages.find step.target) fun found => ?_
  cases found with
  | none => exact hR.bind (hR.log _ _) fun _ => hR.done _
  | some element =>
      dsimp only
      split
      · exact hR.bind (hR.log _ _) fun _ => hR.done _
      · exact related_stabilize hR hpages step index element

theorem related_resolve (hR : IsCongruence R) (hpages : Page.ReadsRelated R page' page)
    (step : Step) (index : Int) :
    R (resolve page' step index) (resolve page step index) := by
  unfold resolve
  split
  · refine hR.orElse (related_resolveElement hR hpages step index) fun failure => ?_
    exact hR.bind (hR.log _ _) fun _ => hR.done _
  · exact hR.done _

end Resolution

namespace Validation

open Routine

variable {page' : Page τ η} {page : Page σ η}

theorem related_perform (hR : IsCongruence R)
    (hperform : ∀ interaction, R (page'.perform interaction) (page.perform interaction))
    (step : Step) : R (perform page' step) (perform page step) := by
  unfold perform
  split
  · exact hR.done none
  · refine hR.bind (hR.outcome (hperform _)) fun ended => ?_
    cases ended with
    | ok value => exact hR.done none
    | error failure => exact hR.bind (hR.log _ _) fun _ => hR.done _

theorem related_replay (hR : IsCongruence R)
    (hperform : ∀ interaction, R (page'.perform interaction) (page.perform interaction))
    (step : Step) (outcome : Outcome) : R (replay page' step outcome) (replay page step outcome) := by
  unfold replay
  split
  · exact hR.done _
  · split
    · refine hR.bind (related_perform hR hperform step) fun problem? => ?_
      cases problem? with
      | none => exact hR.done _
      | some problem => exact hR.done _
    · exact hR.done _

theorem related_standardResolver (hR : IsCongruence R) (hpages : Page.ReadsRelated R page' page)
    (step : Step) (index : Nat) :
    R (standardResolver page' step index) (standardResolver page step index) :=
  Resolution.related_resolve hR hpages step (index : Int)

section

variable {resolver' : Resolver τ η} {resolver : Resolver σ η}
  (hresolver : ∀ step index, R (resolver' page' step index) (resolver page step index))

include hresolver

theorem related_validateStep (hR : IsCongruence R)
    (hperform : ∀ interaction, R (page'.perform interaction) (page.perform interaction))
    (index : Nat) (step : Step) :
    R (validateStep resolver' page' index step) (validateStep resolver page index step) := by
  refine hR.bind (hR.outcome (hresolver step index)) fun ended => ?_
  cases ended with
  | ok outcome => exact related_replay hR hperform step outcome
  | error failure => exact hR.bind (hR.log _ _) fun _ => hR.done _

theorem related_validateSteps (hR : IsCongruence R)
    (hperform : ∀ interaction, R (page'.perform interaction) (page.perform interaction))
    (index : Nat) (steps : List Step) :
    R (validateSteps resolver' page' index steps) (validateSteps resolver page index steps) := by
  induction steps generalizing index with
  | nil => exact hR.done []
  | cons step steps ih =>
      refine hR.bind (related_validateStep hresolver hR hperform index step) fun outcome => ?_
      exact hR.bind (ih (index + 1)) fun more => hR.done _

theorem related_validateOn (hR : IsCongruence R) (hpages : Page.Related R page' page)
    (scenario : Scenario) (url : Text) :
    R (validateOn resolver' page' scenario url) (validateOn resolver page scenario url) := by
  refine hR.bind (hR.outcome (hpages.visit url)) fun ended => ?_
  cases ended with
  | error failure => exact hR.done _
  | ok value =>
      have hsteps := related_validateSteps hresolver hR hpages.perform 0 scenario.steps
      exact hR.bind hsteps fun outcomes => hR.done _

end

end Validation

end PageScript
