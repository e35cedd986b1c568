import PageScript.Proofs.RelatedPages
/-!
The faults of routines.  What holds of the faults that the methods of a page end with
holds of those that validation ends with; and as it handles every failure, only
interrupts are left of them.
-/

namespace PageScript

def Fault.IsFailure (fault : Fault) : Prop := ∃ failure, fault = .failure failure

def Fault.IsInterrupt (fault : Fault) : Prop := ∃ message, fault = .interrupt message

theorem Fault.not_isInterrupt_of_isFailure {fault : Fault} (h : fault.IsFailure) :
    ¬ fault.IsInterrupt := by
  obtain ⟨failure, rfl⟩ := h
  rintro ⟨message, hmessage⟩
  exact nomatch hmessage

variable {σ η : Type} {I : σ → Prop} {p q : Fault → Prop}

namespace Routine

variable {α β : Type} {routine : Routine σ α}

/-- In the states of `I`, the routine leads to none that is not in `I`, and the faults
that it ends with satisfy `p`. -/
structure Faults (I : σ → Prop) (p : Fault → Prop) (routine : Routine σ α) : Prop where
  keeps : ∀ s, I s → I (routine s).state
  fault : ∀ s, I s → ∀ fault, (routine s).value = .error fault → p fault

theorem Faults.pure (a : α) : Faults I p (pure a) where
  keeps _ hs := hs
  fault _ _ _ h := nomatch h

theorem Faults.log (level : LogLevel) (message : Text) : Faults I p (log level message) where
  keeps _ hs := hs
  fault _ _ _ h := nomatch h

theorem Faults.bind {first : Routine σ α} {next : α → Routine σ β} (hfirst : Faults I p first)
    (hnext : ∀ a, Faults I p (next a)) : Faults I p (first >>= next) := by
  constructor
  · intro s hs
    have hmiddle := hfirst.keeps s hs
    exact state_bind hmiddle fun a _ => (hnext a).keeps _ hmiddle
  · intro s hs fault h
    rcases value_bind_eq_error h with hfault | ⟨a, -, hfault⟩
    · exact hfirst.fault s hs fault hfault
    · exact (hnext a).fault _ (hfirst.keeps s hs) fault hfault

theorem Faults.imp (h : Faults I p routine) (hpq : ∀ fault, p fault → q fault) :
    Faults I q routine where
  keeps := h.keeps
  fault s hs fault hfault := hpq fault (h.fault s hs fault hfault)

/-- Of the faults of a routine, its outcome ends with the interrupts only. -/
theorem Faults.outcome (h : Faults I p routine) :
    Faults I (fun fault => p fault ∧ fault.IsInterrupt) routine.outcome := by
  constructor
  · intro s hs
    rw [outcome_state]
    exact h.keeps s hs
  · intro s hs fault hfault
    obtain ⟨hvalue, hinterrupt⟩ := value_of_outcome_eq_error hfault
    exact ⟨h.fault s hs fault hvalue, hinterrupt⟩

theorem faults_isCongruence (I : σ → Prop) (p : Fault → Prop) :
    IsCongruence (fun {_} routine (_ : Routine σ _) => Faults I p routine) where
  done := Faults.pure
  log := Faults.log
  bind hfirst hnext := hfirst.bind hnext
  outcome h := h.outcome.imp fun _ => And.left

theorem faults_true (routine : Routine σ α) : Faults (fun _ => True) (fun _ => True) routine where
  keeps _ _ := trivial
  fault _ _ _ _ := trivial

theorem calm_iff_faults : Calm I routine ↔ Faults I Fault.IsFailure routine := by
  constructor
  · intro h
    refine ⟨h.keeps, fun s hs fault hfault => ?_⟩
    cases fault with
    | failure failure => exact ⟨failure, rfl⟩
    | interrupt message => exact absurd hfault (h.notInterrupted s hs message)
  · intro h
    refine ⟨h.keeps, fun s hs message hvalue => ?_⟩
    obtain ⟨failure, hfailure⟩ := h.fault s hs _ hvalue
    exact nomatch hfailure

end Routine

open Routine

/-- In the states of `I`, the page stays in them, and the faults that its methods end
with satisfy `p`. -/
abbrev Page.FaultsIn (I : σ → Prop) (p : Fault → Prop) (page : Page σ η) : Prop :=
  Page.Related (fun {_} routine (_ : Routine σ _) => routine.Faults I p) page page

theorem Page.faultsIn_true (page : Page σ η) : page.FaultsIn (fun _ => True) fun _ => True where
  find _ := faults_true _
  attributeOf _ _ := faults_true _
  textOf _ := faults_true _
  visit _ := faults_true _
  perform _ := faults_true _

namespace Validation

variable {resolver : Resolver σ η} {page : Page σ η}

theorem faults_perform (hperform : ∀ interaction, (page.perform interaction).Faults I p)
    (step : Step) : (perform page step).Faults I fun fault => p fault ∧ fault.IsInterrupt := by
  unfold perform
  split
  · exact .pure none
  · refine (hperform _).outcome.bind fun ended => ?_
    cases ended with
    | ok value => exact .pure none
    | error failure => exact .bind (.log _ _) fun _ => .pure _

theorem faults_replay (hperform : ∀ interaction, (page.perform interaction).Faults I p)
    (step : Step) (outcome : Outcome) :
    (replay page step outcome).Faults I fun fault => p fault ∧ fault.IsInterrupt := by
  unfold replay
  split
  · exact .pure _
  · split
    · refine (faults_perform hperform step).bind fun problem? => ?_
      cases problem? with
      | none => exact .pure _
      | some problem => exact .pure _
    · exact .pure _

theorem faults_validateStep (hresolver : ∀ step index, (resolver page step index).Faults I p)
    (hperform : ∀ interaction, (page.perform interaction).Faults I p) (index : Nat) (step : Step) :
    (validateStep resolver page index step).Faults I fun fault => p fault ∧ fault.IsInterrupt := by
  refine (hresolver step index).outcome.bind fun ended => ?_
  cases ended with
  | ok outcome => exact faults_replay hperform step outcome
  | error failure => exact .bind (.log _ _) fun _ => .pure _

theorem faults_validateSteps (hresolver : ∀ step index, (resolver page step index).Faults I p)
    (hperform : ∀ interaction, (page.perform interaction).Faults I p) (index : Nat)
    (steps : List Step) :
    (validateSteps resolver page index steps).Faults I
      fun fault => p fault ∧ fault.IsInterrupt := by
  induction steps generalizing index with
  | nil => exact .pure []
  | cons step steps ih =>
      refine (faults_validateStep hresolver hperform index step).bind fun outcome => ?_
      exact (ih (index + 1)).bind fun more => .pure _

/-- What is done on a page ends with interrupts only, whatever resolves the steps. -/
theorem faults_validateOn (hpage : page.FaultsIn I p)
    (hresolver : ∀ step index, (resolver page step index).Faults I p) (scenario : Scenario)
    (url : Text) :
    (validateOn resolver page scenario url).Faults I
      fun fault => p fault ∧ fault.IsInterrupt := by
  refine (hpage.visit url).outcome.bind fun ended => ?_
  cases ended with
  | error failure => exact .pure _
  | ok value =>
      have hsteps := faults_validateSteps hresolver hpage.perform 0 scenario.steps
      exact hsteps.bind fun outcomes => .pure _

end Validation

end PageScript
