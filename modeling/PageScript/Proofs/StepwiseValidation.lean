import PageScript.Proofs.ValidationTrace

namespace PageScript.Validation

open Routine
open Scripted (Event)

variable {σ η : Type}

/-- Where a fold over steps ends, whether it comes to its end or is interrupted. -/
def endOf : Except (Stopped σ) (Progress σ) → σ
  | .ok progress => progress.state
  | .error stopped => stopped.state

/-- What is found for each step is what resolving it finds where the interactions
of the steps before it have led. -/
structure IsStepwise (page : Page σ η) (start : σ) (steps : List Step)
    (outcomes : List Outcome) : Prop where
  length : outcomes.length = steps.length
  step : ∀ (i : Nat) step, steps[i]? = some step → ∃ before found outcome,
    Progress.run page start (steps.take i) = .ok before ∧
    (Resolution.resolve page step i before.state).value = .ok found ∧
    outcomes[i]? = some outcome ∧ outcome.SameFinding found ∧
    ∀ {ω : Type} (view : σ → ω), page.ReadsKeep view →
      Replays page view (dueInteractions (steps.take i) (outcomes.take i)) (view start)
        (view before.state)

theorem isStepwise_of_run {page : Page σ η} {start : σ} {steps : List Step}
    {progress : Progress σ} (hrun : Progress.run page start steps = .ok progress) :
    IsStepwise page start steps progress.outcomes where
  length := Progress.run_length hrun
  step := by
    intro i step hstep
    obtain ⟨before, outcome, after, hbefore, htake, -, hfinish, houtcome⟩ :=
      Progress.run_step hrun hstep
    obtain ⟨found, looked, hfound, hsame, -⟩ := finishStep_eq_ok hfinish
    refine ⟨before, found, outcome, hbefore, (Done.result_eq_ok_iff.mp hfound).1, houtcome, hsame, ?_⟩
    intro ω view hview
    exact replays_foldlM hview hbefore (by rw [htake, List.nil_append])

section

variable {openPage : Routine σ (Page σ η)} {page : Page σ η} {scenario : Scenario} {url : Text}
  {s start : σ}

theorem result_recordedOpening (hopened : (openPage s).value = .ok page) :
    (openPage.recordedOpening ⟨s, []⟩).result =
      .ok (page.recorded, ⟨(openPage s).state, [.opened]⟩) := by
  refine Done.result_eq_ok_iff.mpr ⟨?_, rfl⟩
  change Except.map Page.recorded (openPage s).value = _
  rw [hopened]
  rfl

/-- On record, the calls for each step follow those for the steps before it. -/
theorem result_validate_recorded (hopened : (openPage s).value = .ok page)
    (hvisited : (page.visit url (openPage s).state).result = .ok ((), start))
    {progress : Progress σ} (hrun : Progress.run page start scenario.steps = .ok progress)
    (hclosed : (page.close progress.state).value = .ok ()) :
    ∃ reads : List (List Event), reads.length = scenario.steps.length ∧
      (∀ looked ∈ reads, ∀ event ∈ looked, event.isRead = true) ∧
      (validate standardResolver openPage.recordedOpening scenario url ⟨s, []⟩).result =
        .ok (.ok ⟨withFinalTargets scenario progress.outcomes, progress.outcomes⟩,
          ⟨(page.close progress.state).state,
            [.opened, .visited url] ++ callsOf reads scenario.steps progress.outcomes ++
              [.closed]⟩) := by
  have hvisited' : (page.recorded.visit url ⟨(openPage s).state, [.opened]⟩).result =
      .ok ((), ⟨start, [.opened, .visited url]⟩) := by
    obtain ⟨hvalue, hstate⟩ := Done.result_eq_ok_iff.mp hvisited
    refine Done.result_eq_ok_iff.mpr ⟨hvalue, ?_⟩
    rw [← hstate]
    rfl
  obtain ⟨reads, hlength, hreads, hfold⟩ :=
    foldlM_advance_recorded hrun (List.nil_append _).symm [.opened, .visited url]
  refine ⟨reads, hlength, hreads, ?_⟩
  have hclosed' : (page.recorded.close ⟨progress.state, [.opened, .visited url] ++
      callsOf reads scenario.steps progress.outcomes⟩).value = .ok () := hclosed
  exact result_validate_of_ok (result_recordedOpening hopened) hvisited' hfold hclosed'

/-- Validating a scenario is a fold over its steps: each is resolved in turn, and
then done if it is due.  A page that is not interrupted lets it come to its end.
Then each outcome is what resolving its step finds where the interactions of the
steps before have led; the calls on record are those for each step in turn, each
interaction once and behind what was looked at for its step; and the first steps
alone come to the first outcomes. -/
theorem validate_eq_fold (hopened : (openPage s).value = .ok page)
    (hvisited : (page.visit url (openPage s).state).result = .ok ((), start))
    (hclosed : ∀ k ≤ scenario.steps.length,
      (page.close (endOf (Progress.run page start (scenario.steps.take k)))).value = .ok ()) :
    (validate standardResolver openPage scenario url s).value =
      (match Progress.run page start scenario.steps with
        | .ok progress =>
            .ok (.ok ⟨withFinalTargets scenario progress.outcomes, progress.outcomes⟩)
        | .error stopped => .error stopped.fault) ∧
    (page.CalmIn (fun _ => True) →
      ∃ progress, Progress.run page start scenario.steps = .ok progress) ∧
    ∀ progress, Progress.run page start scenario.steps = .ok progress →
      IsStepwise page start scenario.steps progress.outcomes ∧
      (∃ reads : List (List Event), reads.length = scenario.steps.length ∧
        (∀ looked ∈ reads, ∀ event ∈ looked, event.isRead = true) ∧
        (validate standardResolver openPage.recordedOpening scenario url ⟨s, []⟩).result =
          .ok (.ok ⟨withFinalTargets scenario progress.outcomes, progress.outcomes⟩,
            ⟨(validate standardResolver openPage scenario url s).state,
              [.opened, .visited url] ++ callsOf reads scenario.steps progress.outcomes ++
                [.closed]⟩)) ∧
      ∀ k ≤ scenario.steps.length, ∃ report,
        (validate standardResolver openPage { scenario with steps := scenario.steps.take k }
          url s).value = .ok (.ok report) ∧ report.outcomes = progress.outcomes.take k := by
  have hopened' : (openPage s).result = .ok (page, (openPage s).state) :=
    Done.result_eq_ok_iff.mpr ⟨hopened, rfl⟩
  have hend := hclosed scenario.steps.length (Nat.le_refl _)
  rw [List.take_length] at hend
  refine ⟨?_, ?_, ?_⟩
  · cases hrun : Progress.run page start scenario.steps with
    | ok progress =>
        rw [hrun] at hend
        exact (Done.result_eq_ok_iff.mp (result_validate_of_ok hopened' hvisited hrun hend)).1
    | error stopped =>
        rw [hrun] at hend
        exact (Done.result_eq_error_iff.mp (result_validate_of_error hopened' hvisited hrun hend)).1
  · intro hcalm
    obtain ⟨progress, hrun, -⟩ := run_of_calm hcalm scenario.steps trivial
    exact ⟨progress, hrun⟩
  · intro progress hrun
    rw [hrun] at hend
    refine ⟨isStepwise_of_run hrun, ?_, ?_⟩
    · obtain ⟨reads, hlength, hreads, hresult⟩ :=
        result_validate_recorded hopened hvisited hrun hend
      refine ⟨reads, hlength, hreads, hresult.trans ?_⟩
      rw [(Done.result_eq_ok_iff.mp (result_validate_of_ok hopened' hvisited hrun hend)).2]
    · intro k hk
      obtain ⟨before, hbefore, htake, -⟩ := Progress.run_take hrun k
      have hclose := hclosed k hk
      rw [hbefore] at hclose
      let first : Scenario := { scenario with steps := scenario.steps.take k }
      have hfirst : Progress.run page start first.steps = .ok before := hbefore
      have hresult := result_validate_of_ok hopened' hvisited hfirst hclose
      exact ⟨_, (Done.result_eq_ok_iff.mp hresult).1, htake⟩

end

/-- A page with a form, whose first field appears only when it is opened, and whose choice is
locked. -/
def formScript : Scripted.Script where
  elements :=
    [("#open", ⟨[("data-testid", some "opener")], none⟩), ("#note", ⟨[], none⟩),
     ("#size", ⟨[], none⟩), ("#menu", ⟨[], none⟩)]
  interactionFaults := [("select #size", .failure ⟨"Error", "locked"⟩)]
  hooks := [("click #open", ⟨⟨[("#name", ⟨[], none⟩)], []⟩, false⟩)]

/-- A scenario with a step of every kind: one of them lacks data, and the target of another is
not on the page. -/
def formScenario : Scenario where
  id := "s-1"
  name := "form"
  description? := none
  steps :=
    [⟨.click, "#open", none, ""⟩, ⟨.goto, "/form", none, ""⟩, ⟨.fill, "#name", some "Ann", ""⟩,
     ⟨.type, "#note", some "hi", ""⟩, ⟨.fill, "#name", none, ""⟩, ⟨.expect, "#note", none, ""⟩,
     ⟨.select, "#size", some "L", ""⟩, ⟨.click, "#gone", none, ""⟩, ⟨.wait, "250", none, ""⟩,
     ⟨.hover, "#menu", none, ""⟩]
  tags := []

/-- The stage after the page has been opened and the address loaded. -/
def formStage : Scripted.Stage := ⟨[formScript], [formScript], [.opened, .visited "/"], false⟩

theorem validate_formScenario_fold :
    let start := Scripted.Stage.start [formScript] false
    ∃ outcomes after,
      (validate standardResolver Scripted.Stage.openPage formScenario "/" start).value =
        .ok (.ok ⟨withFinalTargets formScenario outcomes, outcomes⟩) ∧
      IsStepwise (Scripted.Stage.pageAt 0) formStage formScenario.steps outcomes ∧
      outcomes.map Outcome.resolved =
        [true, true, true, true, true, true, true, false, true, true] ∧
      (validate standardResolver Scripted.Stage.openPage.recordedOpening formScenario "/"
        ⟨start, []⟩).result =
          .ok (.ok ⟨withFinalTargets formScenario outcomes, outcomes⟩, after) ∧
      after.trace =
        [.opened, .visited "/",
         .queried "#open", .attributeRead "data-testid", .performed (.click "#open"),
         .queried "#name", .attributeRead "data-testid", .attributeRead "id",
         .attributeRead "aria-label", .performed (.fill "#name" "Ann"),
         .queried "#note", .attributeRead "data-testid", .attributeRead "id",
         .attributeRead "aria-label", .performed (.fill "#note" "hi"),
         .queried "#name", .attributeRead "data-testid", .attributeRead "id",
         .attributeRead "aria-label",
         .queried "#note", .attributeRead "data-testid", .attributeRead "aria-label",
         .attributeRead "role",
         .queried "#size", .attributeRead "data-testid", .attributeRead "id",
         .attributeRead "aria-label", .performed (.select "#size" "L"),
         .queried "#gone",
         .queried "#menu", .attributeRead "data-testid", .attributeRead "aria-label",
         .attributeRead "role", .textRead, .performed (.hover "#menu"),
         .closed] := by
  intro start
  have hopened : (Scripted.Stage.openPage start).value = .ok (Scripted.Stage.pageAt 0) := rfl
  have hvisited : ((Scripted.Stage.pageAt 0).visit "/"
      (Scripted.Stage.openPage start).state).result = .ok ((), formStage) := rfl
  have hfaultless : ∀ k ≤ formScenario.steps.length,
      ((endOf (Progress.run (Scripted.Stage.pageAt 0) formStage
        (formScenario.steps.take k))).page 0).closeFault? = none := by
    decide +kernel
  have hclosed : ∀ k ≤ formScenario.steps.length, ((Scripted.Stage.pageAt 0).close
      (endOf (Progress.run (Scripted.Stage.pageAt 0) formStage
        (formScenario.steps.take k)))).value = .ok () :=
    fun k hk => congrArg Scripted.raise? (hfaultless k hk)
  obtain ⟨hvalue, hends, hrun⟩ := validate_eq_fold hopened hvisited hclosed
  have hfound : (Progress.run (Scripted.Stage.pageAt 0) formStage formScenario.steps).toOption.map
      (fun progress => progress.outcomes.map Outcome.resolved) =
        some [true, true, true, true, true, true, true, false, true, true] := by
    decide +kernel
  cases hsteps : Progress.run (Scripted.Stage.pageAt 0) formStage formScenario.steps with
  | error stopped =>
      rw [hsteps] at hfound
      exact absurd hfound nofun
  | ok progress =>
      rw [hsteps] at hvalue hfound
      obtain ⟨hstepwise, ⟨reads, -, -, hrecorded⟩, -⟩ := hrun progress hsteps
      refine ⟨progress.outcomes, _, hvalue, hstepwise, Option.some.inj hfound, hrecorded, ?_⟩
      rw [← (Done.result_eq_ok_iff.mp hrecorded).2]
      decide +kernel

end PageScript.Validation
