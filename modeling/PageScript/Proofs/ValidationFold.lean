import PageScript.Proofs.RecordedPage

namespace PageScript

/-- What validation adds to the outcome of a step leaves these alone. -/
structure Outcome.SameFinding (outcome found : Outcome) : Prop where
  stepIndex : outcome.stepIndex = found.stepIndex
  resolved : outcome.resolved = found.resolved
  originalTarget : outcome.originalTarget = found.originalTarget
  finalTarget : outcome.finalTarget = found.finalTarget
  strategy : outcome.strategy = found.strategy

theorem Outcome.sameFinding_refl (found : Outcome) : found.SameFinding found :=
  ⟨rfl, rfl, rfl, rfl, rfl⟩

theorem Outcome.sameFinding_addNote (found : Outcome) (note : Text) :
    (found.addNote note).SameFinding found := by
  unfold Outcome.addNote
  split <;> exact ⟨rfl, rfl, rfl, rfl, rfl⟩

namespace Validation

open Routine

variable {σ η : Type}

/-- The interaction that is to be done for a step with this outcome, with the target and the
data of the draft: none if the step was not resolved, or if what is to be written or chosen is
missing.  Typing fills. -/
def dueInteraction? (step : Step) (outcome : Outcome) : Option Interaction :=
  match outcome.resolved, step.action, step.data? with
  | true, .click, _ => some (.click step.target)
  | true, .hover, _ => some (.hover step.target)
  | true, .fill, some text | true, .type, some text => some (.fill step.target text)
  | true, .select, some option => some (.select step.target option)
  | _, _, _ => none

/-- The interactions of steps with these outcomes, in order. -/
def dueInteractions (steps : List Step) (outcomes : List Outcome) : List Interaction :=
  (steps.zip outcomes).filterMap fun (step, outcome) => dueInteraction? step outcome

/-- The state after an interaction, if there is one to be done. -/
def stateAfter (page : Page σ η) (s : σ) : Option Interaction → σ
  | none => s
  | some interaction => (page.perform interaction s).state

/-- A step that has been resolved: its interaction is done if it is due, and what
went wrong is remarked. -/
def finishFound (page : Page σ η) (step : Step) (found : Outcome) (looked : σ) :
    Except (Stopped σ) (Outcome × σ) :=
  match dueInteraction? step found with
  | none => .ok (if step.lacksData then found.addNote (missingDataNote step) else found, looked)
  | some interaction =>
      match (page.perform interaction looked).result with
      | .ok (_, acted) => .ok (found, acted)
      | .error ⟨.failure failure, acted⟩ =>
          .ok (found.addNote ("interaction failed: " ++ failure.summary), acted)
      | .error stopped => .error stopped

/-- A step by itself: it is resolved, and then done if it is due. -/
def finishStep (page : Page σ η) (index : Nat) (step : Step) (s : σ) :
    Except (Stopped σ) (Outcome × σ) := do
  let (found, looked) ← (Resolution.resolve page step index s).result
  finishFound page step found looked

/-- Where validation stands between two steps. -/
structure Progress (σ : Type) where
  outcomes : List Outcome
  state : σ

namespace Progress

def advance (page : Page σ η) (before : Progress σ) (step : Step) :
    Except (Stopped σ) (Progress σ) :=
  (finishStep page before.outcomes.length step before.state).map fun (outcome, state) =>
    ⟨before.outcomes ++ [outcome], state⟩

/-- All steps, in order, from a state of the page on. -/
def run (page : Page σ η) (start : σ) (steps : List Step) : Except (Stopped σ) (Progress σ) :=
  steps.foldlM (advance page) ⟨[], start⟩

end Progress

/-- A failure of the page is an outcome of the step, and no failure of resolving it. -/
theorem resolve_value_ne_failure (page : Page σ η) (step : Step) (index : Int) (s : σ)
    (failure : Failure) :
    (Resolution.resolve page step index s).value ≠ .error (.failure failure) := by
  unfold Resolution.resolve
  split
  · rcases Routine.value_cases (Resolution.resolveElement page step index s).value with
      ⟨outcome, h⟩ | ⟨problem, h⟩ | ⟨message, h⟩
    · simp [Routine.orElse, Routine.andThen, Routine.outcome_of_ok h, Routine.done]
    · simp [Routine.orElse, Routine.andThen, Routine.outcome_of_failure h, Routine.bind_eq,
        Routine.log]
    · simp [Routine.orElse, Routine.andThen, Routine.outcome_of_interrupt h]
  · simp

theorem interacts_eq_isSome (step : Step) :
    step.action.interacts = (Interaction.ofStep? step).isSome := by
  unfold Interaction.ofStep?
  cases step.action <;> rfl

theorem dueInteraction?_eq_ofStep? (step : Step) (outcome : Outcome) :
    dueInteraction? step outcome =
      if outcome.resolved && !step.lacksData then Interaction.ofStep? step else none := by
  rcases step with ⟨action, target, data?, description⟩
  unfold dueInteraction?
  cases outcome.resolved <;> cases action <;> cases data? <;> rfl

theorem result_perform (page : Page σ η) {step : Step} {interaction : Interaction}
    (hstep : Interaction.ofStep? step = some interaction) (s : σ) :
    (perform page step s).result =
      match (page.perform interaction s).result with
      | .ok (_, acted) => .ok (none, acted)
      | .error ⟨.failure failure, acted⟩ => .ok (some failure.summary, acted)
      | .error stopped => .error stopped := by
  unfold perform
  simp only [hstep]
  rw [result_bind, result_outcome]
  rcases (page.perform interaction s).result with ⟨failure | message, acted⟩ | ⟨-, acted⟩ <;> rfl

/-- What is done for a step on the page is the interaction that is due. -/
theorem result_replay (page : Page σ η) (step : Step) (found : Outcome) (s : σ) :
    (replay page step found s).result = finishFound page step found s := by
  have hinteracts := interacts_eq_isSome step
  unfold replay finishFound
  rw [dueInteraction?_eq_ofStep?]
  cases hlacks : step.lacksData with
  | true =>
      simp only [Bool.not_true, Bool.and_false, Bool.false_eq_true, if_false, if_true]
      rfl
  | false =>
      cases hresolved : found.resolved with
      | false =>
          simp only [Bool.false_and, Bool.false_eq_true, if_false]
          rfl
      | true =>
          cases hstep : Interaction.ofStep? step with
          | none =>
              rw [hstep] at hinteracts
              simp only [hinteracts, Option.isSome_none, Bool.and_false, Bool.false_eq_true,
                if_false, ite_self]
              rfl
          | some interaction =>
              rw [hstep] at hinteracts
              simp only [hinteracts, Option.isSome_some, Bool.and_self, Bool.not_false, if_true,
                Bool.false_eq_true, if_false]
              rw [result_bind, result_perform page hstep]
              rcases (page.perform interaction s).result with
                ⟨failure | message, acted⟩ | ⟨-, acted⟩ <;> rfl

theorem result_validateStep (page : Page σ η) (index : Nat) (step : Step) (s : σ) :
    (validateStep standardResolver page index step s).result = finishStep page index step s := by
  unfold validateStep finishStep standardResolver
  rw [result_bind, result_outcome]
  cases hresolve : (Resolution.resolve page step index s).result with
  | ok found => exact result_replay page step found.1 found.2
  | error stopped =>
      rcases stopped with ⟨failure | message, looked⟩
      · have hvalue := (Done.result_eq_error_iff.mp hresolve).1
        exact absurd hvalue (resolve_value_ne_failure page step index s failure)
      · rfl

/-- Validating steps is a fold over them, which numbers them as it goes. -/
theorem result_validateSteps (page : Page σ η) (steps : List Step) (before : Progress σ) :
    (validateSteps standardResolver page before.outcomes.length steps before.state).result.map
        (fun ended => (⟨before.outcomes ++ ended.1, ended.2⟩ : Progress σ)) =
      steps.foldlM (Progress.advance page) before := by
  -- The number of a step is the number of the outcomes before it.
  induction steps generalizing before with
  | nil =>
      rw [validateSteps, result_pure]
      change Except.ok (⟨before.outcomes ++ [], before.state⟩ : Progress σ) = _
      rw [List.append_nil]
      rfl
  | cons step steps ih =>
      rw [validateSteps, result_bind, result_validateStep, List.foldlM_cons, Progress.advance]
      cases finishStep page before.outcomes.length step before.state with
      | error stopped => rfl
      | ok ended =>
          have hrest := ih ⟨before.outcomes ++ [ended.1], ended.2⟩
          simp only [List.length_append, List.length_singleton] at hrest
          change Except.map _ (Done.result ((validateSteps standardResolver page _ steps >>=
            fun more => pure (ended.1 :: more)) ended.2)) = steps.foldlM (Progress.advance page) _
          rw [← hrest, result_bind]
          cases (validateSteps standardResolver page _ steps ended.2).result with
          | error stopped => rfl
          | ok later =>
              change (Except.ok ⟨before.outcomes ++ ended.1 :: later.1, later.2⟩ :
                Except (Stopped σ) (Progress σ)) =
                  .ok ⟨before.outcomes ++ [ended.1] ++ later.1, later.2⟩
              rw [List.append_assoc, List.singleton_append]

theorem dueInteraction?_congr (step : Step) {outcome found : Outcome}
    (hsame : outcome.SameFinding found) :
    dueInteraction? step outcome = dueInteraction? step found := by
  rw [dueInteraction?_eq_ofStep?, dueInteraction?_eq_ofStep?, hsame.resolved]

theorem finishFound_eq_ok {page : Page σ η} {step : Step} {found outcome : Outcome}
    {looked after : σ} (hstep : finishFound page step found looked = .ok (outcome, after)) :
    outcome.SameFinding found ∧
      after = stateAfter page looked (dueInteraction? step found) := by
  unfold finishFound at hstep
  split at hstep
  · rename_i hdue
    obtain ⟨rfl, rfl⟩ := Prod.mk.inj (Except.ok.inj hstep)
    rw [hdue]
    refine ⟨?_, rfl⟩
    split
    · exact found.sameFinding_addNote _
    · exact found.sameFinding_refl
  · rename_i interaction hdue
    rw [hdue]
    split at hstep
    · rename_i acted hacted
      obtain ⟨rfl, rfl⟩ := Prod.mk.inj (Except.ok.inj hstep)
      exact ⟨found.sameFinding_refl, (Done.result_eq_ok_iff.mp hacted).2.symm⟩
    · rename_i failure acted hacted
      obtain ⟨rfl, rfl⟩ := Prod.mk.inj (Except.ok.inj hstep)
      exact ⟨found.sameFinding_addNote _, (Done.result_eq_error_iff.mp hacted).2.symm⟩
    · exact absurd hstep (by simp)

/-- What a step comes to: its outcome is the one that was found, but for a remark,
and only the interaction that is due is done. -/
theorem finishStep_eq_ok {page : Page σ η} {index : Nat} {step : Step} {s after : σ}
    {outcome : Outcome} (hstep : finishStep page index step s = .ok (outcome, after)) :
    ∃ found looked, (Resolution.resolve page step index s).result = .ok (found, looked) ∧
      outcome.SameFinding found ∧
      after = stateAfter page looked (dueInteraction? step outcome) := by
  obtain ⟨⟨found, looked⟩, hfound, hfinish⟩ := bind_eq_ok hstep
  obtain ⟨hsame, hafter⟩ := finishFound_eq_ok hfinish
  refine ⟨found, looked, hfound, hsame, ?_⟩
  rw [dueInteraction?_congr step hsame, hafter]

namespace Progress

theorem advance_eq_ok {page : Page σ η} {before after : Progress σ} {step : Step}
    (hstep : advance page before step = .ok after) :
    ∃ outcome, finishStep page before.outcomes.length step before.state = .ok (outcome, after.state) ∧
      after.outcomes = before.outcomes ++ [outcome] := by
  unfold advance at hstep
  cases hfinish : finishStep page before.outcomes.length step before.state with
  | error stopped =>
      rw [hfinish] at hstep
      exact absurd hstep (by simp [Except.map])
  | ok ended =>
      rw [hfinish] at hstep
      obtain rfl := Except.ok.inj hstep
      exact ⟨ended.1, rfl, rfl⟩

theorem foldlM_advance_outcomes {page : Page σ η} {steps : List Step} {before after : Progress σ}
    (hsteps : steps.foldlM (advance page) before = .ok after) :
    ∃ more, after.outcomes = before.outcomes ++ more ∧ more.length = steps.length := by
  induction steps generalizing before with
  | nil =>
      obtain rfl := Except.ok.inj hsteps
      exact ⟨[], by simp, rfl⟩
  | cons step steps ih =>
      rw [List.foldlM_cons] at hsteps
      obtain ⟨middle, hfirst, hrest⟩ := bind_eq_ok hsteps
      obtain ⟨outcome, -, hone⟩ := advance_eq_ok hfirst
      obtain ⟨more, hmore, hlength⟩ := ih hrest
      refine ⟨outcome :: more, ?_, by simp [hlength]⟩
      rw [hmore, hone, List.append_assoc, List.singleton_append]

theorem run_length {page : Page σ η} {start : σ} {steps : List Step} {progress : Progress σ}
    (hrun : run page start steps = .ok progress) :
    progress.outcomes.length = steps.length := by
  obtain ⟨more, hmore, hlength⟩ := foldlM_advance_outcomes hrun
  rw [hmore, List.nil_append, hlength]

theorem run_take {page : Page σ η} {start : σ} {steps : List Step} {progress : Progress σ}
    (hrun : run page start steps = .ok progress) (k : Nat) :
    ∃ before, run page start (steps.take k) = .ok before ∧
      before.outcomes = progress.outcomes.take k ∧
      (steps.drop k).foldlM (advance page) before = .ok progress := by
  unfold run at hrun
  rw [← List.take_append_drop k steps, List.foldlM_append] at hrun
  obtain ⟨before, hfirst, hrest⟩ := bind_eq_ok hrun
  have hlength := run_length hfirst
  obtain ⟨more, hmore, hmoreLength⟩ := foldlM_advance_outcomes hrest
  refine ⟨before, hfirst, ?_, hrest⟩
  rw [hmore]
  rcases Nat.le_total k steps.length with hk | hk
  · rw [List.take_left' (by rw [hlength, List.length_take, Nat.min_eq_left hk])]
  · have hnone : more = [] := by
      rw [← List.length_eq_zero_iff, hmoreLength, List.drop_eq_nil_of_le hk]
      rfl
    rw [hnone, List.append_nil, List.take_of_length_le]
    rw [hlength, List.take_of_length_le hk]
    exact hk

/-- The step at a place is finished where the steps before it have led. -/
theorem run_step {page : Page σ η} {start : σ} {steps : List Step} {progress : Progress σ}
    (hrun : run page start steps = .ok progress) {i : Nat} {step : Step}
    (hstep : steps[i]? = some step) :
    ∃ before outcome after, run page start (steps.take i) = .ok before ∧
      before.outcomes = progress.outcomes.take i ∧ before.outcomes.length = i ∧
      finishStep page i step before.state = .ok (outcome, after) ∧
      progress.outcomes[i]? = some outcome := by
  obtain ⟨before, hbefore, htake, hrest⟩ := run_take hrun i
  obtain ⟨hi, hget⟩ := List.getElem?_eq_some_iff.mp hstep
  have hlength : before.outcomes.length = i := by
    rw [run_length hbefore, List.length_take, Nat.min_eq_left (Nat.le_of_lt hi)]
  rw [List.drop_eq_getElem_cons hi, hget, List.foldlM_cons] at hrest
  obtain ⟨after, hfirst, hlater⟩ := bind_eq_ok hrest
  obtain ⟨outcome, hfinish, hone⟩ := advance_eq_ok hfirst
  obtain ⟨more, hmore, -⟩ := foldlM_advance_outcomes hlater
  rw [hlength] at hfinish
  refine ⟨before, outcome, after.state, hbefore, htake, hlength, hfinish, ?_⟩
  rw [hmore, hone, List.append_assoc, List.getElem?_append_right (Nat.le_of_eq hlength), hlength,
    Nat.sub_self]
  rfl

end Progress

end Validation

end PageScript
