import PageScript.Proofs.ReplayedPage

namespace PageScript

open Scripted (Event)

variable {σ η : Type}

namespace Routine

variable {α : Type}

theorem Records.result_ok {p : Event → Bool} {recorded : Routine (Recorded σ) α}
    {plain : Routine σ α} (hrecords : Records p recorded plain) {s after : σ} {a : α}
    (hplain : (plain s).result = .ok (a, after)) (trace : List Event) :
    ∃ more, (∀ event ∈ more, p event = true) ∧
      (recorded ⟨s, trace⟩).result = .ok (a, ⟨after, trace ++ more⟩) := by
  obtain ⟨more, hmore, heq⟩ := hrecords s trace
  obtain ⟨hvalue, hstate⟩ := Done.result_eq_ok_iff.mp hplain
  refine ⟨more, hmore, Done.result_eq_ok_iff.mpr ?_⟩
  rw [heq, hvalue, hstate]
  exact ⟨rfl, rfl⟩

/-- Cleaning up changes the state in which a routine ends, and not how it ends. -/
theorem result_finally_of_ok {routine : Routine σ α} {cleanup : Routine σ Unit} {s ended : σ} {a : α}
    (hroutine : (routine s).result = .ok (a, ended)) (hcleanup : (cleanup ended).value = .ok ()) :
    (routine.finally_ cleanup s).result = .ok (a, (cleanup ended).state) := by
  obtain ⟨hvalue, rfl⟩ := Done.result_eq_ok_iff.mp hroutine
  obtain ⟨hfinal, hstate⟩ := finally_of_ok hcleanup
  exact Done.result_eq_ok_iff.mpr ⟨hfinal.trans hvalue, hstate⟩

theorem result_finally_of_error {routine : Routine σ α} {cleanup : Routine σ Unit} {s : σ}
    {stopped : Stopped σ} (hroutine : (routine s).result = .error stopped)
    (hcleanup : (cleanup stopped.state).value = .ok ()) :
    (routine.finally_ cleanup s).result =
      .error ⟨stopped.fault, (cleanup stopped.state).state⟩ := by
  obtain ⟨hvalue, hended⟩ := Done.result_eq_error_iff.mp hroutine
  rw [← hended] at hcleanup ⊢
  obtain ⟨hfinal, hstate⟩ := finally_of_ok hcleanup
  exact Done.result_eq_error_iff.mpr ⟨hfinal.trans hvalue, hstate⟩

end Routine

namespace Validation

open Routine

theorem finishFound_recorded {page : Page σ η} {step : Step} {found outcome : Outcome}
    {looked after : σ} (hstep : finishFound page step found looked = .ok (outcome, after))
    (trace : List Event) :
    finishFound page.recorded step found ⟨looked, trace⟩ =
      .ok (outcome, ⟨after, trace ++ (dueInteraction? step found).toList.map Event.performed⟩) := by
  unfold finishFound at hstep ⊢
  cases hdue : dueInteraction? step found with
  | none =>
      rw [hdue] at hstep
      obtain ⟨rfl, rfl⟩ := Prod.mk.inj (Except.ok.inj hstep)
      simp
  | some interaction =>
      rw [hdue] at hstep
      have hperform : (page.recorded.perform interaction ⟨looked, trace⟩).result =
          match (page.perform interaction looked).result with
          | .ok (value, acted) => .ok (value, ⟨acted, trace ++ [.performed interaction]⟩)
          | .error ⟨fault, acted⟩ => .error ⟨fault, ⟨acted, trace ++ [.performed interaction]⟩⟩ := by
        simp only [Done.result, Page.recorded, recordedAs]
        cases (page.perform interaction looked).value <;> rfl
      dsimp only at hstep ⊢
      rw [hperform]
      cases hdone : (page.perform interaction looked).result with
      | ok ended =>
          rw [hdone] at hstep
          obtain ⟨rfl, rfl⟩ := Prod.mk.inj (Except.ok.inj hstep)
          rfl
      | error stopped =>
          rw [hdone] at hstep
          rcases stopped with ⟨failure | message, acted⟩
          · obtain ⟨rfl, rfl⟩ := Prod.mk.inj (Except.ok.inj hstep)
            rfl
          · exact absurd hstep (by simp)

/-- A step that is finished on a recorded page: what was looked at, and then the
interaction if it was due. -/
theorem finishStep_recorded {page : Page σ η} {index : Nat} {step : Step} {s after : σ}
    {outcome : Outcome} (hstep : finishStep page index step s = .ok (outcome, after))
    (trace : List Event) :
    ∃ reads : List Event, (∀ event ∈ reads, event.isRead = true) ∧
      finishStep page.recorded index step ⟨s, trace⟩ =
        .ok (outcome, ⟨after, trace ++ (reads ++
          (dueInteraction? step outcome).toList.map Event.performed)⟩) := by
  obtain ⟨⟨found, looked⟩, hfound, hfinish⟩ := bind_eq_ok hstep
  obtain ⟨hsame, -⟩ := finishFound_eq_ok hfinish
  obtain ⟨reads, hreads, hrecorded⟩ :=
    (Resolution.records_resolve page step index).result_ok hfound trace
  refine ⟨reads, hreads, ?_⟩
  rw [finishStep, hrecorded, dueInteraction?_congr step hsame, ← List.append_assoc]
  exact finishFound_recorded hfinish (trace ++ reads)

/-- The calls for steps, given what is looked at for each: that, and then the
interaction if it is due. -/
def callsOf : List (List Event) → List Step → List Outcome → List Event
  | looked :: reads, step :: steps, outcome :: outcomes =>
      looked ++ (dueInteraction? step outcome).toList.map Event.performed ++
        callsOf reads steps outcomes
  | _, _, _ => []

theorem foldlM_advance_recorded {page : Page σ η} {steps : List Step} {before after : Progress σ}
    {more : List Outcome} (hsteps : steps.foldlM (Progress.advance page) before = .ok after)
    (hmore : after.outcomes = before.outcomes ++ more) (trace : List Event) :
    ∃ reads : List (List Event), reads.length = steps.length ∧
      (∀ looked ∈ reads, ∀ event ∈ looked, event.isRead = true) ∧
      steps.foldlM (Progress.advance page.recorded) ⟨before.outcomes, ⟨before.state, trace⟩⟩ =
        .ok ⟨after.outcomes, ⟨after.state, trace ++ callsOf reads steps more⟩⟩ := by
  induction steps generalizing before more trace with
  | nil =>
      obtain rfl := Except.ok.inj hsteps
      exact ⟨[], rfl, by simp, by simp [callsOf]; rfl⟩
  | cons step steps ih =>
      rw [List.foldlM_cons] at hsteps
      obtain ⟨middle, hfirst, hrest⟩ := bind_eq_ok hsteps
      obtain ⟨outcome, hfinish, hone⟩ := Progress.advance_eq_ok hfirst
      obtain ⟨later, hlater, -⟩ := Progress.foldlM_advance_outcomes hrest
      obtain rfl : more = outcome :: later := by
        rw [hlater, hone, List.append_assoc] at hmore
        exact (List.append_cancel_left hmore).symm
      obtain ⟨looked, hlooked, hrecorded⟩ := finishStep_recorded hfinish trace
      obtain ⟨reads, hlength, hreads, hfold⟩ := ih hrest hlater
        (trace ++ (looked ++ (dueInteraction? step outcome).toList.map Event.performed))
      have htrace : trace ++ callsOf (looked :: reads) (step :: steps) (outcome :: later) =
          trace ++ (looked ++ (dueInteraction? step outcome).toList.map Event.performed) ++
            callsOf reads steps later := by
        simp only [callsOf, List.append_assoc]
      refine ⟨looked :: reads, by simp [hlength],
        List.forall_mem_cons.mpr ⟨hlooked, hreads⟩, ?_⟩
      rw [hone] at hfold
      rw [List.foldlM_cons, Progress.advance, hrecorded, htrace]
      exact hfold

section Run

variable {resolver : Resolver σ η} {openPage : Routine σ (Page σ η)} {page : Page σ η}
  {scenario : Scenario} {url : Text} {s opened start : σ}

theorem result_validateOn (hvisited : (page.visit url opened).result = .ok ((), start)) :
    (validateOn standardResolver page scenario url opened).result =
      (Progress.run page start scenario.steps).map fun progress =>
        (.ok progress.outcomes, progress.state) := by
  have houtcome : ((page.visit url).outcome opened).result = .ok (.ok (), start) := by
    rw [result_outcome, hvisited]
  have hsteps := result_validateSteps page scenario.steps ⟨[], start⟩
  rw [Progress.run, ← hsteps]
  unfold validateOn
  refine (result_bind_of_ok houtcome).trans ?_
  refine (result_bind (validateSteps standardResolver page 0 scenario.steps) _ _).trans ?_
  simp only [List.length_nil]
  cases (validateSteps standardResolver page 0 scenario.steps start).result <;> rfl

theorem result_validate_of_opened (hopened : (openPage s).result = .ok (page, opened)) :
    (validate resolver openPage scenario url s).result =
      (((validateOn resolver page scenario url).finally_ page.close) opened).result.map
        fun ended => (ended.1.map fun outcomes => ⟨withFinalTargets scenario outcomes, outcomes⟩,
          ended.2) := by
  have houtcome : (openPage.outcome s).result = .ok (.ok page, opened) := by
    rw [result_outcome, hopened]
  unfold validate
  refine (result_bind_of_ok (result_log _ _ s)).trans ?_
  refine (result_bind_of_ok houtcome).trans ?_
  refine (result_bind ((validateOn resolver page scenario url).finally_ page.close) _ _).trans ?_
  cases (((validateOn resolver page scenario url).finally_ page.close) opened).result with
  | error stopped => rfl
  | ok ended =>
      rcases ended with ⟨error | outcomes, ended⟩
      · rfl
      · rfl

theorem result_validate_of_ok (hopened : (openPage s).result = .ok (page, opened))
    (hvisited : (page.visit url opened).result = .ok ((), start)) {progress : Progress σ}
    (hrun : Progress.run page start scenario.steps = .ok progress)
    (hclosed : (page.close progress.state).value = .ok ()) :
    (validate standardResolver openPage scenario url s).result =
      .ok (.ok ⟨withFinalTargets scenario progress.outcomes, progress.outcomes⟩,
        (page.close progress.state).state) := by
  have hon : (validateOn standardResolver page scenario url opened).result =
      .ok (.ok progress.outcomes, progress.state) := by
    rw [result_validateOn hvisited, hrun]
    rfl
  rw [result_validate_of_opened hopened, result_finally_of_ok hon hclosed]
  rfl

theorem result_validate_of_error (hopened : (openPage s).result = .ok (page, opened))
    (hvisited : (page.visit url opened).result = .ok ((), start)) {stopped : Stopped σ}
    (hrun : Progress.run page start scenario.steps = .error stopped)
    (hclosed : (page.close stopped.state).value = .ok ()) :
    (validate standardResolver openPage scenario url s).result =
      .error ⟨stopped.fault, (page.close stopped.state).state⟩ := by
  have hon : (validateOn standardResolver page scenario url opened).result = .error stopped := by
    rw [result_validateOn hvisited, hrun]
    rfl
  rw [result_validate_of_opened hopened, result_finally_of_error hon hclosed]
  rfl

theorem result_validate_of_noPage {failure : Failure}
    (hopened : (openPage s).result = .error ⟨.failure failure, opened⟩) :
    (validate standardResolver openPage scenario url s).result =
      .ok (.error (.noPage url failure), opened) := by
  have houtcome : (openPage.outcome s).result = .ok (.error failure, opened) := by
    rw [result_outcome, hopened]
  unfold validate
  refine (result_bind_of_ok (result_log _ _ s)).trans ?_
  exact (result_bind_of_ok houtcome).trans rfl

theorem result_validate_of_notLoaded (hopened : (openPage s).result = .ok (page, opened))
    {failure : Failure} (hvisited : (page.visit url opened).result = .error ⟨.failure failure, start⟩)
    (hclosed : (page.close start).value = .ok ()) :
    (validate standardResolver openPage scenario url s).result =
      .ok (.error (.notLoaded url failure), (page.close start).state) := by
  have hon : (validateOn standardResolver page scenario url opened).result =
      .ok (.error (.notLoaded url failure), start) := by
    unfold validateOn
    rw [result_bind, result_outcome, hvisited]
    rfl
  rw [result_validate_of_opened hopened, result_finally_of_ok hon hclosed]
  rfl

end Run

end Validation

end PageScript
