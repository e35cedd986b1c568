import Mathlib.Data.Nat.Find
import Mathlib.Logic.Function.Iterate
import PageScript.Proofs.EarlyCancellation

namespace PageScript.Run

open Routine
open Scripted (Event)

variable {σ η : Type} {I : σ → Prop} {plan : Plan σ η} {occasion : Occasion} {objective : Objective}
  {url runId : Text} {s start : σ} {scenarios : List Scenario}

/-- The state in which a run that has validated `m` scenarios asks, before the one at
a place is compiled, whether it is cancelled. -/
def compileCheckedAt (plan : Plan σ η) (url : Text) (s : σ) (scenarios : List Scenario)
    (m i : Nat) : σ :=
  plan.meanwhile^[i] (checkedAt plan url s scenarios (min (m + 1) scenarios.length))

/-- Where a run notices that it is cancelled: the pages that it has opened, and the
scenarios that it has validated and compiled by then. -/
structure Notice (σ : Type) where
  opened : Nat
  validated : Nat
  compiled : Nat
  stage : Text
  state : σ

/-- The checks that find a run cancelled which none before them has. -/
inductive Notices (plan : Plan σ η) (url : Text) (s : σ) (scenarios : List Scenario) :
    Notice σ → Prop where
  | validating {m : Nat} (hm : m < scenarios.length) (hcomes : ComesTo plan url s scenarios m)
      (hcancelled : plan.isCancelled (checkedAt plan url s scenarios m) = true) :
      Notices plan url s scenarios ⟨m, m, 0, "validation", checkedAt plan url s scenarios m⟩
  | compiling {m c : Nat} (hm : m ≤ scenarios.length) (hends : EndsAt plan url s scenarios m)
      (hc : c < scenarios.length)
      (hfree : ∀ i < c, plan.isCancelled (compileCheckedAt plan url s scenarios m i) = false)
      (hcontained : ∀ i < c, ∀ scenario, scenarios[i]? = some scenario →
        Suite.IsContained scenario (optionsFor plan.options i scenarios.length))
      (hcancelled : plan.isCancelled (compileCheckedAt plan url s scenarios m c) = true) :
      Notices plan url s scenarios ⟨min (m + 1) scenarios.length, m, c, "compilation",
        compileCheckedAt plan url s scenarios m c⟩

/-- The states in which a run asks whether it is cancelled, as long as it is not. -/
inductive IsChecked (plan : Plan σ η) (url : Text) (s : σ) (scenarios : List Scenario) :
    σ → Prop where
  | validating {i : Nat} (hi : i < scenarios.length)
      (hreaches : ∀ j < i, Reaches plan url (checkedAt plan url s scenarios j)) :
      IsChecked plan url s scenarios (checkedAt plan url s scenarios i)
  | compiling {m c : Nat} (hm : m ≤ scenarios.length)
      (hreaches : ∀ j < m, Reaches plan url (checkedAt plan url s scenarios j))
      (hstops : m < scenarios.length → ¬ Reaches plan url (checkedAt plan url s scenarios m))
      (hc : c < scenarios.length) :
      IsChecked plan url s scenarios (compileCheckedAt plan url s scenarios m c)

theorem exists_notices_of_checkedAt {i : Nat} (hi : i < scenarios.length)
    (hreaches : ∀ j < i, Reaches plan url (checkedAt plan url s scenarios j))
    (hcancelled : plan.isCancelled (checkedAt plan url s scenarios i) = true) :
    ∃ notice, Notices plan url s scenarios notice := by
  classical
  have hsome : ∃ i, plan.isCancelled (checkedAt plan url s scenarios i) = true := ⟨i, hcancelled⟩
  have hle : Nat.find hsome ≤ i := Nat.find_min' hsome hcancelled
  refine ⟨_, .validating (Nat.lt_of_le_of_lt hle hi) (fun j hj => ?_) (Nat.find_spec hsome)⟩
  exact ⟨Bool.eq_false_iff.mpr (Nat.find_min hsome hj),
    hreaches j (Nat.lt_of_lt_of_le hj hle)⟩

/-- Whatever check finds a run cancelled, the run notices it there or before. -/
theorem exists_notices (hcontains : plan.Contains scenarios)
    (hset : ∃ t, IsChecked plan url s scenarios t ∧ plan.isCancelled t = true) :
    ∃ notice, Notices plan url s scenarios notice := by
  classical
  obtain ⟨t, hchecked, hcancelled⟩ := hset
  cases hchecked with
  | validating hi hreaches => exact exists_notices_of_checkedAt hi hreaches hcancelled
  | @compiling m c hm hreaches hstops hc =>
      -- A check of validation may already have found the run cancelled.
      by_cases hearlier : ∃ i < min (m + 1) scenarios.length,
          plan.isCancelled (checkedAt plan url s scenarios i) = true
      · obtain ⟨i, hi, hfound⟩ := hearlier
        obtain ⟨him, hin⟩ := Nat.lt_min.mp hi
        refine exists_notices_of_checkedAt hin (fun j hj => hreaches j ?_) hfound
        exact Nat.lt_of_lt_of_le hj (Nat.le_of_lt_succ him)
      · have hnone : ∀ i ≤ m, i < scenarios.length →
            plan.isCancelled (checkedAt plan url s scenarios i) = false := by
          intro i him hin
          refine Bool.eq_false_iff.mpr fun hfound => hearlier ⟨i, ?_, hfound⟩
          exact Nat.lt_min.mpr ⟨Nat.lt_succ_of_le him, hin⟩
        have hends : EndsAt plan url s scenarios m := by
          constructor
          · intro i hi
            exact ⟨hnone i (Nat.le_of_lt hi) (Nat.lt_of_lt_of_le hi hm), hreaches i hi⟩
          · intro hlt
            exact ⟨hnone m (Nat.le_refl m) hlt, hstops hlt⟩
        have hsome : ∃ i, plan.isCancelled (compileCheckedAt plan url s scenarios m i) = true :=
          ⟨c, hcancelled⟩
        have hle : Nat.find hsome ≤ c := Nat.find_min' hsome hcancelled
        refine ⟨_, .compiling hm hends (Nat.lt_of_le_of_lt hle hc) (fun i hi => ?_)
          (fun i _ scenario hscenario => hcontains i scenario hscenario) (Nat.find_spec hsome)⟩
        exact Bool.eq_false_iff.mpr (Nat.find_min hsome hi)

/-- A check that finds the run cancelled ends compilation: what was compiled before is
kept, and the cancellation is the last entry. -/
theorem result_compileAll_of_cancelled (plan : Plan σ η) (runId : Text) (total index : Nat)
    {outputs : List Output} {c : Nat} (hc : c < outputs.length)
    (hfree : ∀ i < c, plan.isCancelled (plan.meanwhile^[i] (plan.meanwhile s)) = false)
    (hgoes : ∀ i < c, ∀ output, outputs[i]? = some output →
      fatalError? plan total (index + i) output = none)
    (hcancelled : plan.isCancelled (plan.meanwhile^[c] (plan.meanwhile s)) = true) :
    (compileAll plan runId total index outputs s).result =
      .ok (.ok (((outputs.take c).zipIdx index).filterMap fun (output, i) =>
          compilation? plan runId total i output,
        (((outputs.take c).zipIdx index).filterMap fun (output, i) =>
          inputError? plan total i output) ++ [cancellation runId "compilation"]),
        plan.meanwhile^[c] (plan.meanwhile s)) := by
  induction c generalizing outputs index s with
  | zero =>
      obtain ⟨output, rest, rfl⟩ := List.exists_cons_of_length_pos hc
      have hnow : plan.isCancelled (plan.meanwhile s) = true := hcancelled
      rw [result_compileAll_step, if_pos hnow]
      rfl
  | succ c ih =>
      obtain ⟨output, rest, rfl⟩ := List.exists_cons_of_length_pos (Nat.zero_lt_of_lt hc)
      have hlater : ∀ i < c, ∀ other, rest[i]? = some other →
          fatalError? plan total (index + 1 + i) other = none := by
        intro i hi other hother
        have hnone := hgoes (i + 1) (Nat.succ_lt_succ hi) other hother
        rwa [← Nat.add_assoc, Nat.add_right_comm] at hnone
      have hrest := ih (index + 1) (s := plan.meanwhile s) (Nat.lt_of_succ_lt_succ hc)
        (fun i hi => hfree (i + 1) (Nat.succ_lt_succ hi)) hlater hcancelled
      have hfirst : plan.isCancelled (plan.meanwhile s) = false := hfree 0 (Nat.succ_pos c)
      have hnone : fatalError? plan total index output = none := hgoes 0 (Nat.succ_pos c) output rfl
      rw [result_compileAll_step, hfirst, if_neg (by decide), hnone, hrest, List.take_succ_cons,
        List.zipIdx_cons]
      simp only [Except.map, withEarlier, Prod.map, id_eq, List.filterMap_cons,
        Function.iterate_succ, Function.comp_apply, Except.ok.injEq, Prod.mk.injEq, and_true]
      cases compilation? plan runId total index output <;>
        cases inputError? plan total index output <;> simp

/-- Whether an entry tells that the run was cancelled. -/
def isCancellation (error : StageError) : Bool := error.kind == "RunCancelledError"

/-- What a result holds of a run that notices its cancellation: the reports of the
scenarios that it had validated, the drafts of the others, what it had compiled, an
entry for a page on which nothing could be validated, and the cancellation as the last
of the errors and the only one of its kind. -/
structure Result.HoldsFinished (plan : Plan σ η) (url runId : Text) (s : σ)
    (scenarios : List Scenario) (notice : Notice σ) (result : Result) : Prop where
  length : result.generation.outputs.length = scenarios.length
  report : ∀ (i : Nat) scenario, i < notice.validated → scenarios[i]? = some scenario →
    ∃ report, (validateOne plan url scenario (checkedAt plan url s scenarios i)).value =
        .ok (.ok report) ∧
      report.IsFor scenario ∧
      result.generation.outputs[i]? = some ⟨report.scenario, report.outcomes⟩
  draft : ∀ (i : Nat) scenario, notice.validated ≤ i → scenarios[i]? = some scenario →
    result.generation.outputs[i]? = some ⟨scenario, []⟩
  compilations : result.compilations =
    (result.generation.outputs.take notice.compiled).zipIdx.filterMap fun (output, i) =>
      compilation? plan runId scenarios.length i output
  navigationError :
    result.errors.countP isNavigationError = notice.opened - notice.validated
  errors : ∃ earlier, result.errors = earlier ++ [cancellation runId notice.stage] ∧
    ∀ error ∈ earlier, isCancellation error = false

section Outputs

variable {m : Nat} {outputs : List Output} {errors : List StageError}

theorem AreValidated.output (h : AreValidated plan url s scenarios m outputs errors)
    {i : Nat} {scenario : Scenario} (hscenario : scenarios[i]? = some scenario) :
    (i < m → ∃ report,
      (validateOne plan url scenario (checkedAt plan url s scenarios i)).value = .ok (.ok report) ∧
        report.IsFor scenario ∧
        (outputs ++ drafts (scenarios.drop m))[i]? = some ⟨report.scenario, report.outcomes⟩) ∧
      (m ≤ i → (outputs ++ drafts (scenarios.drop m))[i]? = some ⟨scenario, []⟩) := by
  constructor
  · intro hi
    obtain ⟨report, hvalue, hreport, houtput⟩ := h.report i scenario hi hscenario
    refine ⟨report, hvalue, hreport, ?_⟩
    rwa [List.getElem?_append_left (h.length.symm ▸ hi)]
  · intro hi
    rw [List.getElem?_append_right (h.length.symm ▸ hi), h.length, drafts, List.getElem?_map,
      List.getElem?_drop, Nat.add_sub_cancel' hi, hscenario]
    rfl

theorem AreValidated.length_outputs (h : AreValidated plan url s scenarios m outputs errors)
    (hm : m ≤ scenarios.length) :
    (outputs ++ drafts (scenarios.drop m)).length = scenarios.length := by
  rw [List.length_append, h.length, drafts, List.length_map, List.length_drop,
    Nat.add_sub_cancel' hm]

theorem AreValidated.fatalError?_eq_none
    (h : AreValidated plan url s scenarios m outputs errors)
    (hdigits : ∀ scenario ∈ scenarios, ∀ step ∈ scenario.steps, Suite.excessDigits? step = none)
    {total i : Nat} {scenario : Scenario} (hscenario : scenarios[i]? = some scenario)
    (hcontained : Suite.IsContained scenario (optionsFor plan.options i total)) {output : Output}
    (houtput : (outputs ++ drafts (scenarios.drop m))[i]? = some output) :
    fatalError? plan total i output = none := by
  have hplain := hdigits scenario (List.mem_of_getElem? hscenario)
  obtain ⟨hbefore, hfrom⟩ := h.output hscenario
  have hoptions : Suite.IsContained output.scenario (optionsFor plan.options i total) ∧
      ∀ step ∈ output.scenario.steps, Suite.excessDigits? step = none := by
    rcases Nat.lt_or_ge i m with hi | hi
    · obtain ⟨report, -, hreport, hfound⟩ := hbefore hi
      obtain rfl := Option.some.inj (hfound.symm.trans houtput)
      exact ⟨(hreport.isContained_iff _).mpr hcontained, hreport.excessDigits?_eq_none hplain⟩
    · obtain rfl := Option.some.inj ((hfrom hi).symm.trans houtput)
      exact ⟨hcontained, hplain⟩
  rcases fatalError?_cases plan total i hoptions.2 with
    ⟨-, hnone⟩ | ⟨hnot, -⟩
  · exact hnone
  · exact absurd hoptions.1 hnot

theorem AreValidated.isCancellation_eq_false
    (h : AreValidated plan url s scenarios m outputs errors) :
    ∀ error ∈ errors, isCancellation error = false := by
  intro error herror
  rw [isCancellation, h.warning error herror]
  decide

theorem AreValidated.countP_isNavigationError
    (h : AreValidated plan url s scenarios m outputs errors) :
    errors.countP isNavigationError = 0 := by
  rw [List.countP_eq_zero]
  intro error herror
  rw [isNavigationError, h.warning error herror]
  decide

end Outputs

theorem isCancellation_of_isNavigationError {error : StageError}
    (h : isNavigationError error = true) : isCancellation error = false :=
  kind_beq_of_ne h (by decide)

theorem isCancellation_of_isInputError {error : StageError} (h : isInputError error = true) :
    isCancellation error = false :=
  kind_beq_of_ne h (by decide)

theorem isInputError_of_mem_inputErrors {total index : Nat} {outputs : List Output}
    {error : StageError} (herror : error ∈ (outputs.zipIdx index).filterMap fun (output, i) =>
      inputError? plan total i output) : isInputError error = true := by
  obtain ⟨⟨output, i⟩, -, hfound⟩ := List.mem_filterMap.mp herror
  exact isInputError_of_inputError? (Option.mem_toList.mpr hfound)

section Finished

variable {m c : Nat} {outputs : List Output} {warnings : List StageError} {ending : Ending}

theorem AreValidated.holdsFinished_validating
    (h : AreValidated plan url start scenarios m outputs warnings) (hm : m ≤ scenarios.length)
    (t : σ) :
    (resultOf plan occasion ⟨outputs ++ drafts (scenarios.drop m),
        warnings ++ [cancellation occasion.runId "validation"], .cancelled⟩ [] []).HoldsFinished
      plan url occasion.runId start scenarios ⟨m, m, 0, "validation", t⟩ where
  length := h.length_outputs hm
  report i scenario hi hscenario := (h.output hscenario).1 hi
  draft i scenario hi hscenario := (h.output hscenario).2 hi
  compilations := by rw [List.take_zero]; rfl
  navigationError := by
    change ((warnings ++ [cancellation occasion.runId "validation"]) ++ []).countP _ = _
    rw [List.append_nil, List.countP_append, h.countP_isNavigationError, Nat.sub_self]
    rfl
  errors := ⟨warnings, List.append_nil _, h.isCancellation_eq_false⟩

theorem AreValidated.holdsFinished_compiling
    (h : AreValidated plan url start scenarios m outputs warnings) (hm : m ≤ scenarios.length)
    {found : List StageError} (hfound : ∀ error ∈ found, isNavigationError error = true)
    (hcount : found.length = min (m + 1) scenarios.length - m)
    {inputs : List StageError} (hinputs : ∀ error ∈ inputs, isInputError error = true) (t : σ) :
    (resultOf plan occasion ⟨outputs ++ drafts (scenarios.drop m), warnings ++ found, ending⟩
        (((outputs ++ drafts (scenarios.drop m)).take c).zipIdx.filterMap fun (output, i) =>
          compilation? plan occasion.runId scenarios.length i output)
        (inputs ++ [cancellation occasion.runId "compilation"])).HoldsFinished
      plan url occasion.runId start scenarios
        ⟨min (m + 1) scenarios.length, m, c, "compilation", t⟩ where
  length := h.length_outputs hm
  report i scenario hi hscenario := (h.output hscenario).1 hi
  draft i scenario hi hscenario := (h.output hscenario).2 hi
  compilations := rfl
  navigationError := by
    have hnone := List.countP_eq_zero.mpr fun error herror =>
      Bool.eq_false_iff.mp (isNavigationError_of_isInputError (hinputs error herror))
    refine (List.countP_append ..).trans ?_
    rw [List.countP_append, List.countP_append, h.countP_isNavigationError,
      List.countP_eq_length.mpr hfound, hcount, hnone, Nat.zero_add, Nat.zero_add]
    rfl
  errors := by
    refine ⟨_, (List.append_assoc _ _ _).symm, ?_⟩
    intro error herror
    rcases List.mem_append.mp herror with hearlier | hinput
    · rcases List.mem_append.mp hearlier with hwarning | hnavigation
      · exact h.isCancellation_eq_false error hwarning
      · exact isCancellation_of_isNavigationError (hfound error hnavigation)
    · exact isCancellation_of_isInputError (hinputs error hinput)

theorem AreValidated.result_compileValidated
    (h : AreValidated plan url start scenarios m outputs warnings) (hm : m ≤ scenarios.length)
    (hdigits : ∀ scenario ∈ scenarios, ∀ step ∈ scenario.steps, Suite.excessDigits? step = none)
    (hending : ending ≠ .cancelled) (hc : c < scenarios.length)
    (hfree : ∀ i < c, plan.isCancelled (plan.meanwhile^[i] (plan.meanwhile s)) = false)
    (hcontained : ∀ i < c, ∀ scenario, scenarios[i]? = some scenario →
      Suite.IsContained scenario (optionsFor plan.options i scenarios.length))
    (hcancelled : plan.isCancelled (plan.meanwhile^[c] (plan.meanwhile s)) = true)
    (runId : Text) (errors : List StageError) :
    (compileValidated plan runId
        ⟨outputs ++ drafts (scenarios.drop m), errors, ending⟩ s).result =
      .ok (.ok ((((outputs ++ drafts (scenarios.drop m)).take c).zipIdx.filterMap
          fun (output, i) => compilation? plan runId scenarios.length i output),
        (((outputs ++ drafts (scenarios.drop m)).take c).zipIdx.filterMap
          fun (output, i) => inputError? plan scenarios.length i output) ++
            [cancellation runId "compilation"]),
        plan.meanwhile^[c] (plan.meanwhile s)) := by
  have hlength := h.length_outputs hm
  rw [compileValidated, if_neg hending, hlength]
  refine result_compileAll_of_cancelled plan runId scenarios.length 0 (hlength.symm ▸ hc) hfree ?_
    hcancelled
  intro i hi output houtput
  have hscenario := List.getElem?_eq_getElem (Nat.lt_trans hi hc)
  rw [Nat.zero_add]
  exact h.fatalError?_eq_none hdigits hscenario (hcontained i hi _ hscenario) houtput

end Finished

theorem result_run_of_notices (hplan : plan.IsUninterrupted I) (hstart : I start)
    (hfree : plan.isCancelled (plan.meanwhile s) = false) {reply : Text}
    (hreply : (Generation.generate plan.client? plan.model objective (plan.meanwhile s)).result =
      .ok (.ok reply, start))
    (hparsed : Reply.scenarios plan.replyDepth reply occasion.runId = .ok scenarios)
    (hdigits : ∀ scenario ∈ scenarios, ∀ step ∈ scenario.steps, Suite.excessDigits? step = none)
    {notice : Notice σ} (hnotices : Notices plan objective.url start scenarios notice) :
    ∃ result, (run plan occasion objective s).result = .ok (.ok result, notice.state) ∧
      result.HoldsFinished plan objective.url occasion.runId start scenarios notice := by
  have hpoll : (plan.poll s).result = .ok (false, plan.meanwhile s) := by rw [result_poll, hfree]
  cases hnotices with
  | validating hm hcomes hcancelled =>
      obtain ⟨outputs, warnings, hvalidated, hresult⟩ :=
        result_validateAll_of_cancelled hplan hstart occasion.runId hm hcomes hcancelled
      exact ⟨_, result_run_of_compiled hpoll hreply hparsed hresult rfl,
        hvalidated.holdsFinished_validating (Nat.le_of_lt hm) _⟩
  | @compiling m c hm hends hc hgoesOn hcontained hcancelled =>
      obtain ⟨outputs, warnings, ending, after, found, hvalidated, hending, hfound, hcount, hafter,
          hresult⟩ :=
        result_validateAll_of_endsAt hplan hstart occasion.runId hm hends
      unfold compileCheckedAt at hgoesOn hcancelled ⊢
      rw [← hafter] at hgoesOn hcancelled ⊢
      have hcompiled := hvalidated.result_compileValidated hm hdigits hending hc hgoesOn hcontained
        hcancelled occasion.runId (warnings ++ found)
      exact ⟨_, result_run_of_compiled hpoll hreply hparsed hresult hcompiled,
        hvalidated.holdsFinished_compiling hm hfound hcount
          (fun _ => isInputError_of_mem_inputErrors) _⟩

theorem iterate_meanwhile_recorded (plan : Plan σ η) (i : Nat) (s : σ) (trace : List Event) :
    plan.recorded.meanwhile^[i] ⟨s, trace⟩ = ⟨plan.meanwhile^[i] s, trace⟩ := by
  induction i generalizing s with
  | zero => rfl
  | succ i ih => exact ih (plan.meanwhile s)

theorem Notices.recorded (hplan : plan.resolver = Validation.standardResolver) {notice : Notice σ}
    (hnotices : Notices plan url s scenarios notice) :
    ∃ trace, trace.countP Event.isOpened = notice.opened ∧
      Notices plan.recorded url ⟨s, []⟩ scenarios
        ⟨notice.opened, notice.validated, notice.compiled, notice.stage,
          ⟨notice.state, trace⟩⟩ := by
  have hcheck {i : Nat} (hi : i ≤ scenarios.length) :
      plan.recorded.isCancelled (checkedAt plan.recorded url ⟨s, []⟩ scenarios i) =
        plan.isCancelled (checkedAt plan url s scenarios i) := by
    obtain ⟨more, -, hstate⟩ := checkedAt_recorded hplan url scenarios hi s []
    rw [hstate]
    rfl
  have hreach {i : Nat} (hi : i ≤ scenarios.length) :
      Reaches plan.recorded url (checkedAt plan.recorded url ⟨s, []⟩ scenarios i) ↔
        Reaches plan url (checkedAt plan url s scenarios i) := by
    obtain ⟨more, -, hstate⟩ := checkedAt_recorded hplan url scenarios hi s []
    rw [reaches_recorded_iff, hstate]
  have hcomesTo {m : Nat} (hm : m ≤ scenarios.length) (hcomes : ComesTo plan url s scenarios m) :
      ComesTo plan.recorded url ⟨s, []⟩ scenarios m := by
    intro i hi
    have hin := Nat.le_of_lt (Nat.lt_of_lt_of_le hi hm)
    exact ⟨(hcheck hin).trans (hcomes i hi).1, (hreach hin).mpr (hcomes i hi).2⟩
  cases hnotices with
  | @validating m hm hcomes hcancelled =>
      have hle := Nat.le_of_lt hm
      obtain ⟨trace, hcount, hstate⟩ := checkedAt_recorded hplan url scenarios hle s []
      rw [List.nil_append] at hstate
      refine ⟨trace, hcount, ?_⟩
      rw [← hstate]
      exact .validating hm (hcomesTo hle hcomes) ((hcheck hle).trans hcancelled)
  | @compiling m c hm hends hc hfree hcontained hcancelled =>
      obtain ⟨trace, hcount, hstate⟩ :=
        checkedAt_recorded hplan url scenarios (Nat.min_le_right (m + 1) scenarios.length) s []
      rw [List.nil_append] at hstate
      have hcompileCheck (i : Nat) : compileCheckedAt plan.recorded url ⟨s, []⟩ scenarios m i =
          ⟨compileCheckedAt plan url s scenarios m i, trace⟩ := by
        rw [compileCheckedAt, hstate, iterate_meanwhile_recorded]
        rfl
      refine ⟨trace, hcount, ?_⟩
      rw [← hcompileCheck]
      refine .compiling hm ⟨hcomesTo hm hends.1, fun hlt => ?_⟩ hc (fun i hi => ?_) hcontained ?_
      · have hle := Nat.le_of_lt hlt
        refine ⟨(hcheck hle).trans (hends.2 hlt).1, fun hreaches => (hends.2 hlt).2 ?_⟩
        exact (hreach hle).mp hreaches
      · rw [hcompileCheck]
        exact hfree i hi
      · rw [hcompileCheck]
        exact hcancelled

theorem Notices.compiled_eq_zero {notice : Notice σ}
    (hnotices : Notices plan url s scenarios notice) (hstage : notice.stage = "validation") :
    notice.compiled = 0 := by
  cases hnotices with
  | validating => rfl
  | compiling =>
      have hdiffer : ("compilation" : Text) ≠ "validation" := by decide
      exact absurd hstage hdiffer

/-- The first check that finds a run cancelled ends it: the run has a result that
holds what is finished by then, and from the check on nothing is done to the world, so
no page is opened; if the check is one of validation, nothing is compiled.  Whatever
check finds the run cancelled, the run notices it there or before. -/
theorem run_cancelled_holdsFinished (hplan : plan.IsUninterrupted I) (hstart : I start)
    (hfree : plan.isCancelled (plan.meanwhile s) = false) {reply : Text}
    (hreply : (Generation.generate plan.client? plan.model objective (plan.meanwhile s)).result =
      .ok (.ok reply, start))
    (hparsed : Reply.scenarios plan.replyDepth reply occasion.runId = .ok scenarios)
    (hdigits : ∀ scenario ∈ scenarios, ∀ step ∈ scenario.steps, Suite.excessDigits? step = none) :
    (∀ notice, Notices plan objective.url start scenarios notice →
      ∃ result, (run plan occasion objective s).result = .ok (.ok result, notice.state) ∧
        result.HoldsFinished plan objective.url occasion.runId start scenarios notice ∧
        (notice.stage = "validation" → result.compilations = []) ∧
        ∃ trace, run plan.recorded occasion objective ⟨s, []⟩ =
            ⟨.ok (.ok result), ⟨notice.state, trace⟩, (run plan occasion objective s).log⟩ ∧
          trace.countP Event.isOpened = notice.opened) ∧
    (plan.Contains scenarios →
      (∃ t, IsChecked plan objective.url start scenarios t ∧ plan.isCancelled t = true) →
        ∃ notice, Notices plan objective.url start scenarios notice) := by
  refine ⟨fun notice hnotices => ?_, fun hcontains hset => exists_notices hcontains hset⟩
  obtain ⟨result, hresult, hholds⟩ :=
    result_run_of_notices hplan hstart hfree hreply hparsed hdigits hnotices
  refine ⟨result, hresult, hholds, fun hstage => ?_, ?_⟩
  · rw [hholds.compilations, hnotices.compiled_eq_zero hstage, List.take_zero]
    rfl
  · obtain ⟨none, hnone, hreply'⟩ :=
      (records_reply (fun _ => false) plan objective).result_ok hreply []
    obtain rfl : none = [] := List.eq_nil_iff_forall_not_mem.mpr fun event hevent =>
      absurd (hnone event hevent) (by simp)
    obtain ⟨trace, hcount, hrecorded⟩ := hnotices.recorded hplan.resolver
    have hfree' : plan.recorded.isCancelled (plan.recorded.meanwhile ⟨s, []⟩) = false := hfree
    obtain ⟨result', hresult', -⟩ :=
      result_run_of_notices hplan.recorded hstart hfree' hreply' hparsed hdigits hrecorded
    obtain ⟨more, -, hrun⟩ := records_run plan hplan.resolver occasion objective s []
    have hstate := (Done.result_eq_ok_iff.mp hresult').2
    rw [hrun] at hstate
    obtain ⟨hworld, htrace⟩ := Recorded.mk.inj hstate
    rw [List.nil_append] at htrace
    refine ⟨trace, ?_, hcount⟩
    rw [hrun, (Done.result_eq_ok_iff.mp hresult).1, hworld, List.nil_append, htrace]

/-- A plan whose state counts how often the run has asked whether it is cancelled; the
fifth time it is. -/
def patientPlan : Plan Nat Unit where
  client? := some fun _ => pure (some twoScenariosReply)
  model := "model"
  openPage := pure emptyPage
  resolver := Validation.standardResolver
  isCancelled asked := 5 ≤ asked
  options := ⟨none, none, false, .locator⟩
  meanwhile asked := asked + 1

theorem patientPlan_isUninterrupted : patientPlan.IsUninterrupted fun _ => True where
  resolver := rfl
  meanwhile _ _ := trivial
  opening := .pure emptyPage
  page _ page _ hopened := by
    obtain rfl : emptyPage = page := Except.ok.inj hopened
    exact emptyPage_calmIn _
  closing _ page _ hopened _ _ := by
    obtain rfl : emptyPage = page := Except.ok.inj hopened
    exact ⟨rfl, trivial⟩

theorem reaches_patientPlan (url : Text) (asked : Nat) : Reaches patientPlan url asked :=
  ⟨emptyPage, rfl, rfl⟩

theorem run_patientPlan_holdsFinished :
    ∃ result, (run patientPlan rehearsal anyObjective 0).value = .ok (.ok result) ∧
      result.generation.outputs.length = 2 ∧
      result.compilations = (result.generation.outputs.take 1).zipIdx.filterMap
        (fun (output, i) => compilation? patientPlan "run" 2 i output) ∧
      ∃ earlier, result.errors = earlier ++ [cancellation "run" "compilation"] := by
  have hdigits : ∀ scenario ∈ [firstScenario, secondScenario], ∀ step ∈ scenario.steps,
      Suite.excessDigits? step = none := by
    decide +kernel
  have hcontained : Suite.IsContained firstScenario (optionsFor patientPlan.options 0 2) :=
    Or.inr (by decide +kernel)
  have hreply : (Generation.generate patientPlan.client? patientPlan.model anyObjective
      (patientPlan.meanwhile 0)).result = .ok (.ok twoScenariosReply, 1) :=
    Done.result_eq_ok_iff.mpr ⟨rfl, rfl⟩
  obtain ⟨hnotices, -⟩ := run_cancelled_holdsFinished patientPlan_isUninterrupted trivial rfl hreply
    scenarios_twoScenariosReply hdigits
  -- The checks of the two validations are the second and the third, and the first scenario is
  -- compiled after the fourth.
  have hends : EndsAt patientPlan anyObjective.url 1 [firstScenario, secondScenario] 2 := by
    refine ⟨fun i hi => ⟨?_, reaches_patientPlan _ _⟩, fun hlt => absurd hlt (by decide)⟩
    have hcases : i = 0 ∨ i = 1 := by omega
    rcases hcases with rfl | rfl <;> rfl
  obtain ⟨result, hresult, hholds, -⟩ := hnotices _
    (.compiling (c := 1) (Nat.le_refl 2) hends (by decide)
      (fun i hi => by obtain rfl := Nat.lt_one_iff.mp hi; rfl)
      (fun i hi scenario hscenario => by
        obtain rfl := Nat.lt_one_iff.mp hi
        obtain rfl := Option.some.inj hscenario
        exact hcontained)
      rfl)
  obtain ⟨earlier, herrors, -⟩ := hholds.errors
  exact ⟨result, (Done.result_eq_ok_iff.mp hresult).1, hholds.length, hholds.compilations, earlier,
    herrors⟩

/-- A page on which the run is cancelled, and then interrupted while it clicks. -/
def interruptedScript : Scripted.Script where
  elements := [("#a", ⟨[], none⟩)]
  interactionFaults := [("click #a", .interrupt "stop")]
  cancelsOnOpen := true

/-- An interrupt goes through, also when the run is cancelled: then it has no result. -/
theorem run_interruptedScript_hasNoResult :
    (Generation.generate (scriptedPlan ⟨false, none, some twoScenariosReply⟩).client? "model"
        anyObjective (rehearsalStart [interruptedScript])).state.world.cancelled = false ∧
      interruptedScript.closeFault? = none ∧
      (run (scriptedPlan ⟨false, none, some twoScenariosReply⟩) rehearsal anyObjective
        (rehearsalStart [interruptedScript])).state.world.cancelled = true ∧
      (run (scriptedPlan ⟨false, none, some twoScenariosReply⟩) rehearsal anyObjective
        (rehearsalStart [interruptedScript])).value = .error (.interrupt "stop") := by
  decide +kernel

end PageScript.Run
