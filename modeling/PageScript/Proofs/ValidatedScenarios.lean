import PageScript.Proofs.FinalTargets
import PageScript.Run

namespace PageScript

open Routine

variable {σ η : Type}

/-- What a report tells of a scenario: an outcome for each step, whose target is
its final target. -/
structure Report.IsFor (scenario : Scenario) (report : Report) : Prop where
  scenario_eq : report.scenario = Validation.withFinalTargets scenario report.outcomes
  length : report.outcomes.length = scenario.steps.length
  finalTarget : ∀ (i : Nat) step, scenario.steps[i]? = some step → ∃ outcome,
    report.outcomes[i]? = some outcome ∧ Resolution.IsFinalTarget step outcome.finalTarget

theorem Validation.IsStepwise.isFor {page : Page σ η} {start : σ} {scenario : Scenario}
    {outcomes : List Outcome} (houtcomes : IsStepwise page start scenario.steps outcomes) :
    Report.IsFor scenario ⟨withFinalTargets scenario outcomes, outcomes⟩ where
  scenario_eq := rfl
  length := houtcomes.length
  finalTarget := by
    intro i step hstep
    obtain ⟨before, found, outcome, -, hfound, houtcome, hsame, -⟩ := houtcomes.step i step hstep
    refine ⟨outcome, houtcome, ?_⟩
    rw [hsame.finalTarget]
    exact Resolution.resolve_finalTarget hfound

namespace Run

/-- In the states of `I`, nothing interrupts the run: pages and their methods may
fail, but a page is always closed. -/
structure Plan.IsUninterrupted (I : σ → Prop) (plan : Plan σ η) : Prop where
  resolver : plan.resolver = Validation.standardResolver
  meanwhile : ∀ s, I s → I (plan.meanwhile s)
  opening : plan.openPage.Calm I
  page : ∀ s page, I s → (plan.openPage s).value = .ok page → page.CalmIn I
  closing : ∀ s page, I s → (plan.openPage s).value = .ok page →
    ∀ s, I s → (page.close s).value = .ok () ∧ I (page.close s).state

/-- In the states of `I`, nothing cancels or interrupts the run: pages and their
methods may fail, but a page is always closed. -/
structure Plan.IsCalm (I : σ → Prop) (plan : Plan σ η) : Prop where
  resolver : plan.resolver = Validation.standardResolver
  notCancelled : ∀ s, I s → plan.isCancelled s = false
  undisturbed : ∀ s, I s → plan.meanwhile s = s
  opening : plan.openPage.Calm I
  page : ∀ s page, I s → (plan.openPage s).value = .ok page → page.CalmIn I
  closing : ∀ s page, I s → (plan.openPage s).value = .ok page →
    ∀ s, I s → (page.close s).value = .ok () ∧ I (page.close s).state

theorem Plan.IsCalm.isUninterrupted {I : σ → Prop} {plan : Plan σ η} (hplan : plan.IsCalm I) :
    plan.IsUninterrupted I where
  resolver := hplan.resolver
  meanwhile s hs := (hplan.undisturbed s hs).symm ▸ hs
  opening := hplan.opening
  page := hplan.page
  closing := hplan.closing

theorem result_poll (plan : Plan σ η) (s : σ) :
    (plan.poll s).result = .ok (plan.isCancelled (plan.meanwhile s), plan.meanwhile s) := rfl

theorem Plan.IsCalm.result_poll {I : σ → Prop} {plan : Plan σ η} (hplan : plan.IsCalm I) {s : σ}
    (hs : I s) : (plan.poll s).result = .ok (false, s) := by
  rw [Run.result_poll, hplan.undisturbed s hs, hplan.notCancelled s hs]

/-- Whether the application can be reached: a page is opened and loads the address. -/
def Reaches (plan : Plan σ η) (url : Text) (s : σ) : Prop :=
  ∃ page, (plan.openPage s).value = .ok page ∧
    (page.visit url (plan.openPage s).state).value = .ok ()

abbrev validateOne (plan : Plan σ η) (url : Text) (scenario : Scenario) :
    Routine σ (Except Validation.NavigationError Report) :=
  Validation.validate plan.resolver plan.openPage scenario url

section One

variable {I : σ → Prop} {plan : Plan σ η} {url : Text} {s : σ}

theorem validateOne_of_reaches (hplan : plan.IsUninterrupted I) (hs : I s)
    (hreaches : Reaches plan url s) (scenario : Scenario) :
    ∃ report after, (validateOne plan url scenario s).result = .ok (.ok report, after) ∧
      I after ∧ report.IsFor scenario := by
  obtain ⟨page, hopened, hvisited⟩ := hreaches
  have hpage := hplan.page s page hs hopened
  have hstart := (hpage.visit url).keeps _ (hplan.opening.keeps s hs)
  obtain ⟨progress, hrun, hprogress⟩ := Validation.run_of_calm hpage scenario.steps hstart
  obtain ⟨hclosed, hafter⟩ := hplan.closing s page hs hopened progress.state hprogress
  have hresult := Validation.result_validate_of_ok
    (Done.result_eq_ok_iff.mpr ⟨hopened, rfl⟩) (Done.result_eq_ok_iff.mpr ⟨hvisited, rfl⟩)
    hrun hclosed
  rw [validateOne, hplan.resolver]
  exact ⟨_, _, hresult, hafter, (Validation.isStepwise_of_run hrun).isFor⟩

theorem validateOne_of_not_reaches (hplan : plan.IsUninterrupted I) (hs : I s)
    (hreaches : ¬ Reaches plan url s) (scenario : Scenario) :
    ∃ error after, (validateOne plan url scenario s).result = .ok (.error error, after) ∧
      I after := by
  have hopened := hplan.opening.keeps s hs
  rw [validateOne, hplan.resolver]
  rcases value_cases (plan.openPage s).value with ⟨page, h⟩ | ⟨failure, h⟩ | ⟨message, h⟩
  · have hvisit := (hplan.page s page hs h).visit url
    have hloaded := hvisit.keeps _ hopened
    have hresult := Done.result_eq_ok_iff.mpr ⟨h, rfl⟩
    rcases value_cases (page.visit url (plan.openPage s).state).value with
      ⟨loaded, hv⟩ | ⟨failure, hv⟩ | ⟨message, hv⟩
    · exact absurd ⟨page, h, hv⟩ hreaches
    · obtain ⟨hclosed, hafter⟩ := hplan.closing s page hs h _ hloaded
      exact ⟨_, _, Validation.result_validate_of_notLoaded hresult
        (Done.result_eq_error_iff.mpr ⟨hv, rfl⟩) hclosed, hafter⟩
    · exact absurd hv (hvisit.notInterrupted _ hopened message)
  · exact ⟨_, _, Validation.result_validate_of_noPage (Done.result_eq_error_iff.mpr ⟨h, rfl⟩),
      hopened⟩
  · exact absurd h (hplan.opening.notInterrupted s hs message)

end One

def navigationEntry (error : Validation.NavigationError) : StageError :=
  ⟨"validation", "NavigationError", error.message, none⟩

/-- How the validation of scenarios goes from one state to another: the first `k`
of them are validated, and the application cannot be reached for the next one. -/
inductive ValidatesTo (plan : Plan σ η) (url : Text) :
    σ → List Scenario → Nat → Validated → σ → Prop where
  | complete (s : σ) : ValidatesTo plan url s [] 0 ⟨[], [], .complete⟩ s
  | stopped {s after : σ} {scenario : Scenario} {rest : List Scenario}
      {error : Validation.NavigationError} (hreaches : ¬ Reaches plan url s)
      (hresult : (validateOne plan url scenario s).result = .ok (.error error, after)) :
      ValidatesTo plan url s (scenario :: rest) 0
        ⟨drafts (scenario :: rest), [navigationEntry error], .stopped⟩ after
  | next {s middle after : σ} {scenario : Scenario} {rest : List Scenario} {report : Report}
      {k : Nat} {later : Validated} (hreaches : Reaches plan url s)
      (hresult : (validateOne plan url scenario s).result = .ok (.ok report, middle))
      (hreport : report.IsFor scenario) (hlater : ValidatesTo plan url middle rest k later after) :
      ValidatesTo plan url s (scenario :: rest) (k + 1)
        ⟨⟨report.scenario, report.outcomes⟩ :: later.outputs,
          (unresolved? scenario.id report.outcomes).toList ++ later.errors, later.ending⟩ after

variable {I : σ → Prop} {plan : Plan σ η} {url : Text}

theorem result_validateAll (hplan : plan.IsCalm I) (url runId : Text) (scenarios : List Scenario)
    {s : σ} (hs : I s) :
    ∃ k validated after, (validateAll plan runId url scenarios s).result = .ok (validated, after) ∧
      I after ∧ ValidatesTo plan url s scenarios k validated after := by
  induction scenarios generalizing s with
  | nil => exact ⟨0, _, s, rfl, hs, .complete s⟩
  | cons scenario rest ih =>
      rw [validateAll, result_bind_of_ok (hplan.result_poll hs)]
      by_cases hreaches : Reaches plan url s
      · obtain ⟨report, middle, hresult, hmiddle, hreport⟩ :=
          validateOne_of_reaches hplan.isUninterrupted hs hreaches scenario
        obtain ⟨k, later, after, hlater, hafter, hrest⟩ := ih hmiddle
        refine ⟨k + 1, _, after, ?_, hafter, .next hreaches hresult hreport hrest⟩
        refine (result_bind_of_ok hresult).trans ?_
        exact (result_bind_of_ok hlater).trans rfl
      · obtain ⟨error, after, hresult, hafter⟩ :=
          validateOne_of_not_reaches hplan.isUninterrupted hs hreaches scenario
        refine ⟨0, _, after, ?_, hafter, .stopped hreaches hresult⟩
        exact (result_bind_of_ok hresult).trans rfl

/-- The state before the scenario at a place is validated, when all before it have
been. -/
def stateAt (plan : Plan σ η) (url : Text) (s : σ) (scenarios : List Scenario) (i : Nat) : σ :=
  (scenarios.take i).foldl (fun s scenario => (validateOne plan url scenario s).state) s

theorem stateAt_cons_succ (plan : Plan σ η) (url : Text) (s : σ) (scenario : Scenario)
    (rest : List Scenario) (i : Nat) :
    stateAt plan url s (scenario :: rest) (i + 1) =
      stateAt plan url (validateOne plan url scenario s).state rest i := rfl

/-- Whether an entry tells that the application could not be reached. -/
def isNavigationError (error : StageError) : Bool := error.kind == "NavigationError"

/-- An entry of one kind is of no other. -/
theorem kind_beq_of_ne {error : StageError} {kind other : Text} (h : (error.kind == kind) = true)
    (hne : (kind == other) = false) : (error.kind == other) = false := by
  rw [eq_of_beq h, hne]

namespace ValidatesTo

variable {s after : σ} {scenarios : List Scenario} {k : Nat} {validated : Validated}

theorem length_eq (h : ValidatesTo plan url s scenarios k validated after) :
    validated.outputs.length = scenarios.length := by
  induction h with
  | complete s => rfl
  | stopped hreaches hresult => simp [drafts]
  | next hreaches hresult hreport hlater ih => simp [ih]

theorem le_length (h : ValidatesTo plan url s scenarios k validated after) :
    k ≤ scenarios.length := by
  induction h with
  | complete s => exact Nat.le_refl 0
  | stopped hreaches hresult => exact Nat.zero_le _
  | next hreaches hresult hreport hlater ih => exact Nat.succ_le_succ ih

theorem ending_ne_cancelled (h : ValidatesTo plan url s scenarios k validated after) :
    validated.ending ≠ .cancelled := by
  induction h with
  | complete s => decide
  | stopped hreaches hresult => nofun
  | next hreaches hresult hreport hlater ih => exact ih

/-- The place `k` is that of the first scenario for which the application cannot be
reached. -/
theorem reaches_iff (h : ValidatesTo plan url s scenarios k validated after) :
    (∀ i < k, Reaches plan url (stateAt plan url s scenarios i)) ∧
      (k < scenarios.length → ¬ Reaches plan url (stateAt plan url s scenarios k)) := by
  induction h with
  | complete s => exact ⟨fun i hi => absurd hi (Nat.not_lt_zero i), fun hk => absurd hk (by simp)⟩
  | stopped hreaches hresult =>
      exact ⟨fun i hi => absurd hi (Nat.not_lt_zero i), fun _ => hreaches⟩
  | next hreaches hresult hreport hlater ih =>
      obtain ⟨hbefore, hat⟩ := ih
      rw [← (Done.result_eq_ok_iff.mp hresult).2] at hbefore hat
      refine ⟨fun i hi => ?_, fun hk => hat (Nat.lt_of_succ_lt_succ hk)⟩
      cases i with
      | zero => exact hreaches
      | succ i => exact hbefore i (Nat.lt_of_succ_lt_succ hi)

/-- The state in which validation ends is that after the first scenario for which
the application cannot be reached. -/
theorem state_eq (h : ValidatesTo plan url s scenarios k validated after) :
    after = stateAt plan url s scenarios (min (k + 1) scenarios.length) := by
  induction h with
  | complete s => rfl
  | @stopped s after scenario rest error hreaches hresult =>
      have hone : min (0 + 1) (scenario :: rest).length = 1 := by simp
      rw [hone]
      exact (Done.result_eq_ok_iff.mp hresult).2.symm
  | @next s middle after scenario rest report k later hreaches hresult hreport hlater ih =>
      have hmin : min (k + 1 + 1) (scenario :: rest).length = min (k + 1) rest.length + 1 := by
        rw [List.length_cons, Nat.succ_min_succ]
      rw [hmin, stateAt_cons_succ, (Done.result_eq_ok_iff.mp hresult).2]
      exact ih

/-- Before the place `k` stand the reports, and from there on the drafts. -/
theorem output_eq (h : ValidatesTo plan url s scenarios k validated after) {i : Nat}
    {scenario : Scenario} (hscenario : scenarios[i]? = some scenario) :
    (i < k → ∃ report,
      (validateOne plan url scenario (stateAt plan url s scenarios i)).value = .ok (.ok report) ∧
        report.IsFor scenario ∧
        validated.outputs[i]? = some ⟨report.scenario, report.outcomes⟩) ∧
      (k ≤ i → validated.outputs[i]? = some ⟨scenario, []⟩) := by
  induction h generalizing i with
  | complete s => exact absurd hscenario (by simp)
  | stopped hreaches hresult =>
      refine ⟨fun hi => absurd hi (Nat.not_lt_zero i), fun _ => ?_⟩
      rw [drafts, List.getElem?_map, hscenario]
      rfl
  | next hreaches hresult hreport hlater ih =>
      cases i with
      | zero =>
          obtain rfl := Option.some.inj hscenario
          exact ⟨fun _ => ⟨_, (Done.result_eq_ok_iff.mp hresult).1, hreport, rfl⟩,
            fun hk => absurd hk (Nat.not_succ_le_zero _)⟩
      | succ i =>
          obtain ⟨hbefore, hfrom⟩ := ih hscenario
          rw [← (Done.result_eq_ok_iff.mp hresult).2] at hbefore
          exact ⟨fun hi => hbefore (Nat.lt_of_succ_lt_succ hi),
            fun hk => hfrom (Nat.le_of_succ_le_succ hk)⟩

theorem unresolved?_kind {id : Text} {outcomes : List Outcome} {error : StageError}
    (herror : unresolved? id outcomes = some error) :
    error.kind = "StepResolutionWarning" := by
  unfold unresolved? at herror
  split at herror
  · exact absurd herror (by simp)
  · obtain rfl := Option.some.inj herror
    rfl

theorem countP_errors (h : ValidatesTo plan url s scenarios k validated after) :
    validated.errors.countP isNavigationError = if k < scenarios.length then 1 else 0 := by
  induction h with
  | complete s => rfl
  | stopped hreaches hresult => rfl
  | @next s middle after scenario rest report k later hreaches hresult hreport hlater ih =>
      have hnone : (unresolved? scenario.id report.outcomes).toList.countP isNavigationError = 0 := by
        rw [List.countP_eq_zero]
        intro error herror
        have hkind := unresolved?_kind (Option.mem_toList.mp herror)
        rw [isNavigationError, hkind]
        decide
      rw [List.countP_append, hnone, Nat.zero_add, ih]
      simp

end ValidatesTo

end Run

end PageScript
