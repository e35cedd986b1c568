import PageScript.Proofs.MirroredPages
import PageScript.Proofs.StepwiseValidation

namespace PageScript

open Routine
open Scripted (Event)

variable {σ ω η : Type}

/-- The outcome of a step that stands one place earlier. -/
def Outcome.movedUp (outcome : Outcome) : Outcome :=
  { outcome with stepIndex := outcome.stepIndex - 1 }

/-- The outcomes without the one at a place; those behind it move up. -/
def withoutOutcome (j : Nat) (outcomes : List Outcome) : List Outcome :=
  outcomes.take j ++ (outcomes.drop (j + 1)).map Outcome.movedUp

theorem withoutOutcome_append (earlier : List Outcome) (outcome : Outcome) (more : List Outcome) :
    withoutOutcome earlier.length (earlier ++ outcome :: more) =
      earlier ++ more.map Outcome.movedUp := by
  rw [withoutOutcome, List.take_left, List.drop_append, List.drop_of_length_le (Nat.le_succ _),
    Nat.add_sub_cancel_left]
  rfl

def Scenario.withoutStep (scenario : Scenario) (j : Nat) : Scenario :=
  { scenario with steps := scenario.steps.eraseIdx j }

namespace Resolution

/-- The second routine gives what the first does, one place earlier. -/
def MovesUp (later routine : Routine σ Outcome) : Prop :=
  ∀ s, (routine s).result = (later s).result.map (Prod.map Outcome.movedUp id)

theorem MovesUp.bind {α : Type} (first : Routine σ α) {later next : α → Routine σ Outcome}
    (h : ∀ a, MovesUp (later a) (next a)) : MovesUp (first >>= later) (first >>= next) := by
  intro s
  rw [result_bind, result_bind]
  cases (first s).result with
  | error stopped => rfl
  | ok ended => exact h ended.1 ended.2

theorem MovesUp.orElse {later routine : Routine σ Outcome}
    {handle' handle : Failure → Routine σ Outcome} (h : MovesUp later routine)
    (hhandle : ∀ failure, MovesUp (handle' failure) (handle failure)) :
    MovesUp (later.orElse handle') (routine.orElse handle) := by
  intro s
  have hresult := h s
  change ((routine.outcome >>= _) s).result = ((later.outcome >>= _) s).result.map _
  rw [result_bind, result_bind, result_outcome, result_outcome, hresult]
  rcases (later s).result with ⟨failure | message, ended⟩ | ⟨outcome, ended⟩
  · exact hhandle failure ended
  · rfl
  · rfl

variable (page : Page σ η) (step : Step) (index : Int)

theorem MovesUp.pure {later outcome : Outcome} (h : later.movedUp = outcome) :
    MovesUp (pure later : Routine σ Outcome) (pure outcome) := by
  intro s
  rw [result_pure, result_pure, ← h]
  rfl

theorem movesUp_kept (resolved : Bool) (strategy : Strategy) (warning? : Option Text) :
    MovesUp (pure (kept step (index + 1) resolved strategy warning?) : Routine σ Outcome)
      (pure (kept step index resolved strategy warning?)) :=
  .pure (by simp [kept, Outcome.movedUp])

theorem movesUp_improved (tier : Tier) (selector : Text) :
    MovesUp (pure (improved step (index + 1) tier selector) : Routine σ Outcome)
      (pure (improved step index tier selector)) :=
  .pure (by simp [improved, Outcome.movedUp])

theorem movesUp_stabilize (element : η) :
    MovesUp (stabilize page step (index + 1) element) (stabilize page step index element) := by
  refine .bind _ fun found => ?_
  split
  · split
    · exact movesUp_kept step index _ _ _
    · exact .bind _ fun _ => movesUp_improved step index _ _
  · exact .bind _ fun _ => movesUp_improved step index _ _
  · exact .bind _ fun _ => movesUp_kept step index _ _ _

theorem movesUp_resolveElement :
    MovesUp (resolveElement page step (index + 1)) (resolveElement page step index) := by
  refine .bind _ fun found => ?_
  cases found with
  | none => exact .bind _ fun _ => movesUp_kept step index _ _ _
  | some element =>
      dsimp only
      split
      · exact .bind _ fun _ => movesUp_kept step index _ _ _
      · exact movesUp_stabilize page step index element

/-- What is found for a step depends on its place only in that it names it. -/
theorem movesUp_resolve : MovesUp (resolve page step (index + 1)) (resolve page step index) := by
  unfold resolve
  split
  · refine .orElse (movesUp_resolveElement page step index) fun failure => ?_
    exact .bind _ fun _ => movesUp_kept step index _ _ _
  · exact movesUp_kept step index _ _ _

end Resolution

namespace Validation

variable {page : Page σ η} {step : Step} {outcome : Outcome}

/-- The step is one that is not done on the page: it has no interaction, its target was
not resolved, or it lacks data. -/
def IsIdle (step : Step) (outcome : Outcome) : Prop :=
  step.action.interacts = false ∨ outcome.resolved = false ∨ step.lacksData = true

theorem dueInteraction?_eq_none_iff : dueInteraction? step outcome = none ↔ IsIdle step outcome := by
  rw [IsIdle, interacts_eq_isSome, dueInteraction?_eq_ofStep?]
  cases outcome.resolved <;> cases step.lacksData <;> cases Interaction.ofStep? step <;> simp

theorem dueInteraction?_movedUp (step : Step) (outcome : Outcome) :
    dueInteraction? step outcome.movedUp = dueInteraction? step outcome := rfl

theorem movedUp_addNote (outcome : Outcome) (note : Text) :
    (outcome.addNote note).movedUp = outcome.movedUp.addNote note := by
  have hnotice : outcome.movedUp.notice? = outcome.notice? := rfl
  unfold Outcome.addNote
  rw [hnotice]
  cases outcome.notice? <;> rfl

theorem finishFound_movedUp (page : Page σ η) (step : Step) (found : Outcome) (looked : σ) :
    finishFound page step found.movedUp looked =
      (finishFound page step found looked).map (Prod.map Outcome.movedUp id) := by
  unfold finishFound
  rw [dueInteraction?_movedUp]
  cases dueInteraction? step found with
  | none =>
      dsimp only
      split
      · rw [← movedUp_addNote]
        rfl
      · rfl
  | some interaction =>
      dsimp only
      rcases (page.perform interaction looked).result with ⟨failure | message, acted⟩ | ⟨-, acted⟩
      · dsimp only
        rw [← movedUp_addNote]
        rfl
      · rfl
      · rfl

theorem finishStep_movedUp (page : Page σ η) (index : Nat) (step : Step) (s : σ) :
    finishStep page index step s =
      (finishStep page (index + 1) step s).map (Prod.map Outcome.movedUp id) := by
  unfold finishStep
  rw [Resolution.movesUp_resolve page step index s, Int.natCast_succ]
  cases (Resolution.resolve page step (index + 1) s).result with
  | error stopped => rfl
  | ok found => exact finishFound_movedUp page step found.1 found.2

/-- A step that is not done leaves a page as it was that is not changed by being looked at. -/
theorem finishStep_idle (hreads : page.ReadsKeep id) {index : Nat} {s after : σ}
    (hstep : finishStep page index step s = .ok (outcome, after)) (hidle : IsIdle step outcome) :
    after = s := by
  obtain ⟨found, looked, hfound, -, hafter⟩ := finishStep_eq_ok hstep
  have hlooked : looked = s := by
    have hkeeps : (Resolution.resolve page step index s).state = s :=
      Resolution.related_resolve (keeps_isCongruence id) hreads step index s
    rwa [(Done.result_eq_ok_iff.mp hfound).2] at hkeeps
  rw [hafter, dueInteraction?_eq_none_iff.mpr hidle]
  exact hlooked

namespace Progress

/-- With one outcome less before them, steps come to the same outcomes, moved up. -/
theorem foldlM_movedUp {steps : List Step} {before after : Progress σ} {more earlier : List Outcome}
    (hlength : before.outcomes.length = earlier.length + 1)
    (hsteps : steps.foldlM (advance page) before = .ok after)
    (hmore : after.outcomes = before.outcomes ++ more) :
    steps.foldlM (advance page) ⟨earlier, before.state⟩ =
      .ok ⟨earlier ++ more.map Outcome.movedUp, after.state⟩ := by
  induction steps generalizing before more earlier with
  | nil =>
      obtain rfl := Except.ok.inj hsteps
      obtain rfl : more = [] := List.append_right_eq_self.mp hmore.symm
      rw [List.map_nil, List.append_nil]
      rfl
  | cons step steps ih =>
      rw [List.foldlM_cons] at hsteps
      obtain ⟨middle, hfirst, hrest⟩ := bind_eq_ok hsteps
      obtain ⟨outcome, hfinish, hone⟩ := advance_eq_ok hfirst
      obtain ⟨later, hlater, -⟩ := foldlM_advance_outcomes hrest
      obtain rfl : more = outcome :: later := by
        rw [hlater, hone, List.append_assoc] at hmore
        exact (List.append_cancel_left hmore).symm
      have hmoved : finishStep page earlier.length step before.state =
          .ok (outcome.movedUp, middle.state) := by
        rw [finishStep_movedUp, ← hlength, hfinish]
        rfl
      have hmiddle : middle.outcomes.length = (earlier ++ [outcome.movedUp]).length + 1 := by
        rw [hone, List.length_append, List.length_append, hlength]
        rfl
      rw [List.foldlM_cons, advance, hmoved]
      change steps.foldlM (advance page) ⟨earlier ++ [outcome.movedUp], middle.state⟩ = _
      rw [ih hmiddle hrest hlater, List.append_assoc]
      rfl

/-- Without a step that is not done, all steps lead to the same state. -/
theorem run_withoutStep (hreads : page.ReadsKeep id) {start : σ} {steps : List Step}
    {progress : Progress σ} (hrun : run page start steps = .ok progress) {j : Nat}
    (hstep : steps[j]? = some step) (houtcome : progress.outcomes[j]? = some outcome)
    (hidle : IsIdle step outcome) :
    run page start (steps.eraseIdx j) =
      .ok ⟨withoutOutcome j progress.outcomes, progress.state⟩ := by
  obtain ⟨before, hbefore, htake, hrest⟩ := run_take hrun j
  obtain ⟨hj, hget⟩ := List.getElem?_eq_some_iff.mp hstep
  have hlength : before.outcomes.length = j := by
    rw [run_length hbefore, List.length_take, Nat.min_eq_left (Nat.le_of_lt hj)]
  rw [List.drop_eq_getElem_cons hj, hget, List.foldlM_cons] at hrest
  obtain ⟨middle, hfirst, hlater⟩ := bind_eq_ok hrest
  obtain ⟨found, hfinish, hone⟩ := advance_eq_ok hfirst
  obtain ⟨more, hmore, -⟩ := foldlM_advance_outcomes hlater
  have hparts : progress.outcomes = before.outcomes ++ found :: more := by
    rw [hmore, hone, List.append_assoc, List.singleton_append]
  obtain rfl : found = outcome := by
    rw [hparts, List.getElem?_append_right (Nat.le_of_eq hlength), hlength, Nat.sub_self] at houtcome
    exact Option.some.inj houtcome
  have hstate : middle.state = before.state := finishStep_idle hreads hfinish hidle
  have hmiddle : middle.outcomes.length = before.outcomes.length + 1 := by
    rw [hone, List.length_append, List.length_singleton]
  have hwithout : withoutOutcome j progress.outcomes =
      before.outcomes ++ more.map Outcome.movedUp := by
    rw [hparts, ← hlength, withoutOutcome_append]
  rw [run, List.eraseIdx_eq_take_drop_succ, List.foldlM_append]
  change (run page start (steps.take j) >>= _) = _
  rw [hbefore]
  change (steps.drop (j + 1)).foldlM (advance page) before = _
  have hmoved := foldlM_movedUp hmiddle hlater hmore
  rw [hstate] at hmoved
  rw [hwithout]
  exact hmoved

end Progress

section Parts

variable {j : Nat} {steps : List Step} {outcomes : List Outcome}

theorem exists_parts (hlength : outcomes.length = steps.length) (hstep : steps[j]? = some step)
    (houtcome : outcomes[j]? = some outcome) :
    ∃ first rest earlier more, steps = first ++ step :: rest ∧ outcomes = earlier ++ outcome :: more ∧
      first.length = j ∧ earlier.length = j ∧ more.length = rest.length := by
  obtain ⟨hj, hget⟩ := List.getElem?_eq_some_iff.mp hstep
  obtain ⟨hj', hget'⟩ := List.getElem?_eq_some_iff.mp houtcome
  refine ⟨steps.take j, steps.drop (j + 1), outcomes.take j, outcomes.drop (j + 1), ?_, ?_, ?_, ?_, ?_⟩
  · rw [← hget, ← List.drop_eq_getElem_cons hj, List.take_append_drop]
  · rw [← hget', ← List.drop_eq_getElem_cons hj', List.take_append_drop]
  · rw [List.length_take, Nat.min_eq_left (Nat.le_of_lt hj)]
  · rw [List.length_take, Nat.min_eq_left (Nat.le_of_lt hj')]
  · rw [List.length_drop, List.length_drop, hlength]

theorem dueInteractions_append {first rest : List Step} {earlier more : List Outcome}
    (hlength : first.length = earlier.length) :
    dueInteractions (first ++ rest) (earlier ++ more) =
      dueInteractions first earlier ++ dueInteractions rest more := by
  rw [dueInteractions, List.zip_append hlength, List.filterMap_append]
  rfl

theorem dueInteractions_movedUp (steps : List Step) (outcomes : List Outcome) :
    dueInteractions steps (outcomes.map Outcome.movedUp) = dueInteractions steps outcomes := by
  rw [dueInteractions, List.zip_map_right, List.filterMap_map]
  rfl

theorem dueInteractions_withoutStep (hlength : outcomes.length = steps.length)
    (hstep : steps[j]? = some step) (houtcome : outcomes[j]? = some outcome)
    (hidle : IsIdle step outcome) :
    dueInteractions (steps.eraseIdx j) (withoutOutcome j outcomes) =
      dueInteractions steps outcomes := by
  obtain ⟨first, rest, earlier, more, rfl, rfl, rfl, hearlier, -⟩ :=
    exists_parts hlength hstep houtcome
  rw [← hearlier, withoutOutcome_append, hearlier, List.eraseIdx_append_of_length_le (Nat.le_refl _),
    Nat.sub_self, List.eraseIdx_cons_zero, dueInteractions_append hearlier.symm,
    dueInteractions_append hearlier.symm, dueInteractions_movedUp, dueInteractions_cons,
    dueInteraction?_eq_none_iff.mpr hidle]
  rfl

theorem withFinalTargets_withoutStep {scenario : Scenario}
    (hlength : outcomes.length = scenario.steps.length)
    (hstep : scenario.steps[j]? = some step) (houtcome : outcomes[j]? = some outcome) :
    withFinalTargets (scenario.withoutStep j) (withoutOutcome j outcomes) =
      (withFinalTargets scenario outcomes).withoutStep j := by
  obtain ⟨first, rest, earlier, more, hsteps, rfl, rfl, hearlier, -⟩ :=
    exists_parts hlength hstep houtcome
  unfold withFinalTargets Scenario.withoutStep
  dsimp only
  rw [hsteps, ← hearlier, withoutOutcome_append, hearlier,
    List.eraseIdx_append_of_length_le (Nat.le_refl _), Nat.sub_self, List.eraseIdx_cons_zero,
    List.zipWith_append hearlier.symm, List.zipWith_append hearlier.symm, List.zipWith_map_right,
    List.zipWith_cons_cons, List.eraseIdx_append_of_length_le (by simp [hearlier])]
  simp [hearlier, Outcome.movedUp]

end Parts

/-- The interactions among some calls. -/
def interactionsOf (trace : List Event) : List Interaction :=
  trace.filterMap fun
    | .performed interaction => some interaction
    | _ => none

theorem interactionsOf_reads {looked : List Event} (hreads : ∀ event ∈ looked, event.isRead = true) :
    interactionsOf looked = [] := by
  rw [interactionsOf, List.filterMap_eq_nil_iff]
  intro event hevent
  have hread := hreads event hevent
  cases event with
  | performed interaction => exact absurd hread nofun
  | _ => rfl

theorem interactionsOf_append (first second : List Event) :
    interactionsOf (first ++ second) = interactionsOf first ++ interactionsOf second :=
  List.filterMap_append

theorem interactionsOf_callsOf {reads : List (List Event)} {steps : List Step} {outcomes : List Outcome}
    (hreads : ∀ looked ∈ reads, ∀ event ∈ looked, event.isRead = true)
    (hlength : reads.length = steps.length) :
    interactionsOf (callsOf reads steps outcomes) = dueInteractions steps outcomes := by
  induction steps generalizing reads outcomes with
  | nil =>
      obtain rfl := List.length_eq_zero_iff.mp hlength
      rfl
  | cons step steps ih =>
      obtain ⟨looked, reads, rfl⟩ := List.exists_cons_of_length_eq_add_one hlength
      obtain ⟨hlooked, hreads⟩ := List.forall_mem_cons.mp hreads
      cases outcomes with
      | nil => rfl
      | cons outcome outcomes =>
          rw [callsOf, interactionsOf_append, interactionsOf_append, interactionsOf_reads hlooked,
            ih hreads (Nat.succ.inj hlength), dueInteractions_cons]
          cases dueInteraction? step outcome <;> rfl

section Report

variable {openPage : Routine σ (Page σ η)} {scenario : Scenario} {url : Text} {s : σ}
  {report : Report}

theorem exists_run_of_report
    (h : (validate standardResolver openPage scenario url s).value = .ok (.ok report)) :
    ∃ page start progress, (openPage s).value = .ok page ∧
      (page.visit url (openPage s).state).result = .ok ((), start) ∧
      Progress.run page start scenario.steps = .ok progress ∧
      (page.close progress.state).value = .ok () ∧
      report = ⟨withFinalTargets scenario progress.outcomes, progress.outcomes⟩ := by
  obtain ⟨page, outcomes, hopened, hon, hclosed, hreport⟩ := value_validate_eq_report_iff.mp h
  have hresult := Done.result_eq_ok_iff.mpr ⟨hon, rfl⟩
  cases hvisited : (page.visit url (openPage s).state).result with
  | error stopped =>
      rw [validateOn, result_bind, result_outcome, hvisited] at hresult
      rcases stopped with ⟨failure | message, ended⟩
      · exact absurd (Prod.mk.inj (Except.ok.inj hresult)).1 nofun
      · exact absurd hresult nofun
  | ok ended =>
      obtain ⟨⟨⟩, start⟩ := ended
      rw [result_validateOn hvisited] at hresult
      cases hrun : Progress.run page start scenario.steps with
      | error stopped =>
          rw [hrun] at hresult
          exact absurd hresult nofun
      | ok progress =>
          rw [hrun] at hresult
          obtain ⟨houtcomes, hstate⟩ := Prod.mk.inj (Except.ok.inj hresult)
          obtain rfl := Except.ok.inj houtcomes
          rw [← hstate] at hclosed
          exact ⟨page, start, progress, hopened, hvisited, hrun, hclosed, hreport⟩

variable {I : σ → Prop} {model : Page ω η} {fresh : ω} {t : σ} {j : Nat}

/-- A step that is not done can be left out: the other steps come to the same outcomes,
those behind it one place earlier, and the same interactions are done. -/
theorem validate_withoutStep (hopens : OpensLike I openPage model fresh)
    (hreads : model.ReadsKeep id) (hs : I s) (ht : I t)
    (hreport : (validate standardResolver openPage scenario url s).value = .ok (.ok report))
    (hstep : scenario.steps[j]? = some step) (houtcome : report.outcomes[j]? = some outcome)
    (hidle : IsIdle step outcome) :
    (validate standardResolver openPage (scenario.withoutStep j) url t).value =
        .ok (.ok ⟨report.scenario.withoutStep j, withoutOutcome j report.outcomes⟩) ∧
      interactionsOf (validate standardResolver openPage.recordedOpening (scenario.withoutStep j) url
          ⟨t, []⟩).state.trace =
        interactionsOf (validate standardResolver openPage.recordedOpening scenario url
          ⟨s, []⟩).state.trace := by
  -- All is told of the model, on which both validations start in the same state.
  rw [(validate_of_opensLike hopens hs scenario url).1] at hreport
  rw [(validate_of_opensLike hopens ht (scenario.withoutStep j) url).1,
    trace_of_opensLike hopens ht, trace_of_opensLike hopens hs]
  obtain ⟨page, start, progress, hopened, hvisited, hrun, hclosed, rfl⟩ :=
    exists_run_of_report hreport
  obtain rfl : model = page := Except.ok.inj hopened
  have hlength : progress.outcomes.length = scenario.steps.length := Progress.run_length hrun
  have hwithout : Progress.run model start (scenario.withoutStep j).steps =
      .ok ⟨withoutOutcome j progress.outcomes, progress.state⟩ :=
    Progress.run_withoutStep hreads hrun hstep houtcome hidle
  constructor
  · have hresult := result_validate_of_ok (Done.result_eq_ok_iff.mpr ⟨hopened, rfl⟩) hvisited
      hwithout hclosed
    rw [rehearsed, (Done.result_eq_ok_iff.mp hresult).1,
      withFinalTargets_withoutStep hlength hstep houtcome]
  · obtain ⟨reads, hcount, hlooked, hrecorded⟩ :=
      result_validate_recorded hopened hvisited hrun hclosed
    obtain ⟨reads', hcount', hlooked', hrecorded'⟩ :=
      result_validate_recorded hopened hvisited hwithout hclosed
    rw [(Done.result_eq_ok_iff.mp hrecorded).2, (Done.result_eq_ok_iff.mp hrecorded').2]
    dsimp only
    rw [interactionsOf_append, interactionsOf_append, interactionsOf_append, interactionsOf_append,
      interactionsOf_callsOf hlooked hcount, interactionsOf_callsOf hlooked' hcount']
    have hsame : dueInteractions (scenario.withoutStep j).steps (withoutOutcome j progress.outcomes) =
        dueInteractions scenario.steps progress.outcomes :=
      dueInteractions_withoutStep hlength hstep houtcome hidle
    rw [hsame]

end Report

/-- A scenario that opens the dialog, looks for it, and then writes into it. -/
def watchfulScenario : Scenario :=
  { dialogScenario with
    steps := [⟨.click, "#open", none, ""⟩, ⟨.expect, "#dialog", none, ""⟩,
      ⟨.type, "#dialog", some "text", ""⟩] }

theorem validate_watchfulScenario_withoutStep :
    ∃ report, (validate standardResolver Scripted.Stage.openPage watchfulScenario "/"
        (Scripted.Stage.start [dialogScript] false)).value = .ok (.ok report) ∧
      report.outcomes.map Outcome.resolved = [true, true, true] ∧
      (validate standardResolver Scripted.Stage.openPage dialogScenario "/"
        (Scripted.Stage.start [dialogScript] false)).value =
          .ok (.ok ⟨report.scenario.withoutStep 1, withoutOutcome 1 report.outcomes⟩) := by
  have hstart : (Scripted.Stage.start [dialogScript] false).Repeats dialogScript := ⟨rfl, rfl⟩
  obtain ⟨report, hreport, hresolved⟩ : ∃ report, (validate standardResolver
      Scripted.Stage.openPage watchfulScenario "/"
      (Scripted.Stage.start [dialogScript] false)).value = .ok (.ok report) ∧
        report.outcomes.map Outcome.resolved = [true, true, true] := ⟨_, rfl, rfl⟩
  have hlength : report.outcomes.length = 3 := by
    rw [← List.length_map, hresolved]
    rfl
  have houtcome : report.outcomes[1]? = some report.outcomes[1] :=
    List.getElem?_eq_getElem (by omega)
  obtain ⟨hvalue, -⟩ := validate_withoutStep opensLike_dialogScript Scripted.Script.page_readsKeep
    hstart hstart hreport (j := 1) rfl houtcome (Or.inl rfl)
  exact ⟨report, hreport, hresolved, hvalue⟩

end Validation

end PageScript
