import PageScript.Proofs.SharedFiles
import PageScript.Proofs.SortedScenarios

namespace PageScript.Run

variable {σ η : Type} {plan : Plan σ η} {occasion : Occasion} {objective : Objective}
  {url runId : Text} {s t start : σ} {scenarios : List Scenario} {result : Result}

/-- Whether an entry tells that validation came to no end: the application could not be
reached, or the run was cancelled meanwhile. -/
def endsValidation (error : StageError) : Bool :=
  isNavigationError error || (isCancellation error && error.stage == "validation")

/-- The scenarios are validated one after another, and each has a report among the outputs. -/
def AllValidated (plan : Plan σ η) (url : Text) (s : σ) (scenarios : List Scenario)
    (outputs : List Output) : Prop :=
  ∀ (i : Nat) scenario, scenarios[i]? = some scenario →
    plan.isCancelled (checkedAt plan url s scenarios i) = false ∧ ∃ report,
      (validateOne plan url scenario (checkedAt plan url s scenarios i)).value = .ok (.ok report) ∧
      outputs[i]? = some ⟨report.scenario, report.outcomes⟩

theorem allValidated_nil (outputs : List Output) : AllValidated plan url s [] outputs :=
  fun _ _ hscenario => nomatch hscenario

theorem AllValidated.head {scenario : Scenario} {rest : List Scenario} {outputs : List Output}
    (h : AllValidated plan url s (scenario :: rest) outputs) :
    plan.isCancelled (plan.meanwhile s) = false ∧ ∃ report,
      (validateOne plan url scenario (plan.meanwhile s)).value = .ok (.ok report) := by
  obtain ⟨hfree, report, hvalue, -⟩ := h 0 scenario rfl
  exact ⟨hfree, report, hvalue⟩

theorem allValidated_cons_iff {scenario : Scenario} {rest : List Scenario} {report : Report}
    {outputs : List Output} (hfree : plan.isCancelled (plan.meanwhile s) = false)
    (hvalue : (validateOne plan url scenario (plan.meanwhile s)).value = .ok (.ok report)) :
    AllValidated plan url s (scenario :: rest) (⟨report.scenario, report.outcomes⟩ :: outputs) ↔
      AllValidated plan url (validateOne plan url scenario (plan.meanwhile s)).state rest outputs := by
  constructor
  · intro h i found hfound
    exact h (i + 1) found hfound
  · intro h i found hfound
    cases i with
    | zero =>
        obtain rfl := Option.some.inj hfound
        exact ⟨hfree, report, hvalue, rfl⟩
    | succ i => exact h i found hfound

theorem endsValidation_of_unresolved? {id : Text} {outcomes : List Outcome} {error : StageError}
    (h : unresolved? id outcomes = some error) : endsValidation error = false := by
  rw [endsValidation, isNavigationError, isCancellation, ValidatesTo.unresolved?_kind h]
  rfl

/-- Validation is complete exactly if every scenario is validated, and exactly if no entry
tells of another end. -/
theorem ending_of_validateAll {validated : Validated}
    (h : (validateAll plan runId url scenarios s).result = .ok (validated, t)) :
    (validated.ending = .complete ↔ AllValidated plan url s scenarios validated.outputs) ∧
      (validated.ending = .complete ↔
        ∀ error ∈ validated.errors, endsValidation error = false) := by
  induction scenarios generalizing s validated with
  | nil =>
      obtain ⟨rfl, -⟩ := Prod.mk.inj (Except.ok.inj h)
      exact ⟨iff_of_true rfl (allValidated_nil []), iff_of_true rfl nofun⟩
  | cons scenario rest ih =>
      rcases validateAll_cons_cases h with
        ⟨hcancelled, rfl⟩ | ⟨hfree, ⟨error, hvalue, rfl⟩ | ⟨report, later, hvalue, hlater, rfl⟩⟩
      · refine ⟨iff_of_false nofun fun hall => ?_, iff_of_false nofun fun hnone => ?_⟩
        · exact absurd hcancelled (by simp [hall.head.1])
        · exact absurd (hnone _ List.mem_cons_self) nofun
      · refine ⟨iff_of_false nofun fun hall => ?_, iff_of_false nofun fun hnone => ?_⟩
        · obtain ⟨-, report, hreport⟩ := hall.head
          exact absurd (hvalue.symm.trans hreport) nofun
        · exact absurd (hnone _ List.mem_cons_self) nofun
      · obtain ⟨hall, herrors⟩ := ih hlater
        refine ⟨hall.trans (allValidated_cons_iff hfree hvalue).symm, herrors.trans ?_⟩
        constructor
        · intro hnone error herror
          rcases List.mem_append.mp herror with hfirst | hrest
          · exact endsValidation_of_unresolved? (Option.mem_toList.mp hfirst)
          · exact hnone error hrest
        · intro hnone error herror
          exact hnone error (List.mem_append_right _ herror)

theorem endsValidation_of_compileAll {total index : Nat} {outputs : List Output}
    {compilations : List Compilation} {errors : List StageError}
    (h : (compileAll plan runId total index outputs s).result =
      .ok (.ok (compilations, errors), t)) :
    ∀ error ∈ errors, endsValidation error = false := by
  induction outputs generalizing index s compilations errors with
  | nil =>
      obtain ⟨rfl, rfl⟩ := Prod.mk.inj (Except.ok.inj (Prod.mk.inj (Except.ok.inj h)).1)
      exact nofun
  | cons output rest ih =>
      rcases compileAll_cons_cases h with hended | ⟨problem, hended⟩ | ⟨later, -, hrest, hended⟩
      · obtain ⟨rfl, rfl⟩ := Prod.mk.inj (Except.ok.inj hended)
        intro error herror
        obtain rfl := List.mem_singleton.mp herror
        rfl
      · exact absurd hended nofun
      · cases later with
        | error problem => exact absurd hended nofun
        | ok found =>
            obtain ⟨rfl, rfl⟩ := Prod.mk.inj (Except.ok.inj hended)
            intro error herror
            rcases List.mem_append.mp herror with hfirst | hlater
            · have hinput := isInputError_of_inputError? hfirst
              rw [endsValidation, isNavigationError_of_isInputError hinput,
                isCancellation_of_isInputError hinput]
              rfl
            · exact ih hrest error hlater

theorem endsValidation_of_compileValidated {validated : Validated}
    {compilations : List Compilation} {errors : List StageError}
    (h : (compileValidated plan runId validated s).result = .ok (.ok (compilations, errors), t)) :
    ∀ error ∈ errors, endsValidation error = false := by
  unfold compileValidated at h
  split at h
  · obtain ⟨rfl, rfl⟩ := Prod.mk.inj (Except.ok.inj (Prod.mk.inj (Except.ok.inj h)).1)
    exact nofun
  · exact endsValidation_of_compileAll h

theorem compilation?_eq_some {total index : Nat} {output : Output} {compilation : Compilation}
    (h : compilation? plan runId total index output = some compilation) :
    compilation.runId = runId ∧ compilation.outline.caseIds = [output.scenario.id] := by
  unfold compilation? at h
  split at h
  · obtain rfl := Option.some.inj h
    exact ⟨rfl, rfl⟩
  · exact absurd h nofun

/-- What the metadata of a result says is what its lists say. -/
structure Result.IsConsistent (plan : Plan σ η) (url runId : Text) (start : σ)
    (scenarios : List Scenario) (result : Result) : Prop where
  validated : result.generation.metadata.validated = true ↔
    AllValidated plan url start scenarios result.generation.outputs
  source : result.generation.metadata.validated = true ↔
    result.generation.metadata.source? = some ("llm+playwright" : Text)
  errors : result.generation.metadata.validated = true ↔
    ∀ error ∈ result.errors, endsValidation error = false
  stage : result.generation.metadata.stage =
    if result.compilations ≠ [] then "compiled"
    else if result.generation.metadata.validated then "validated" else "generated"
  runId : result.runId = runId ∧ result.generation.runId = runId ∧
    ∀ compilation ∈ result.compilations, compilation.runId = runId
  case : ∀ compilation ∈ result.compilations, ∃ output ∈ result.generation.outputs,
    compilation.outline.caseIds = [output.scenario.id]

/-- Every result of a run agrees with itself, however its pages behave and wherever it is
stopped or cancelled. -/
theorem run_consistent (h : (run plan occasion objective s).value = .ok (.ok result)) :
    ∃ scenarios start,
      (generate plan occasion.runId objective (plan.meanwhile s)).result =
        .ok (.ok scenarios, start) ∧
      result.IsConsistent plan objective.url occasion.runId start scenarios := by
  have hcompiled : ∀ compilation ∈ result.compilations, ∃ output ∈ result.generation.outputs,
      compilation.runId = occasion.runId ∧
        compilation.outline.caseIds = [output.scenario.id] := by
    intro compilation hmem
    obtain ⟨i, output, houtput, hfound⟩ := exists_output_of_mem_compilations h hmem
    exact ⟨output, List.mem_of_getElem? houtput, compilation?_eq_some hfound⟩
  obtain ⟨scenarios, start, validated, middle, compilations, errors, last, hgenerated, hvalidated,
    hcompile, rfl⟩ := exists_of_run_eq_ok h
  obtain ⟨hall, hstops⟩ := ending_of_validateAll hvalidated
  have hcomplete : (resultOf plan occasion validated compilations
      errors).generation.metadata.validated = true ↔ validated.ending = .complete := by
    simp [resultOf]
  refine ⟨scenarios, start, hgenerated, ?_⟩
  constructor
  · exact hcomplete.trans hall
  · rw [hcomplete]
    by_cases hend : validated.ending = .complete
    · exact iff_of_true hend (by rw [resultOf, hend]; rfl)
    · refine iff_of_false hend fun hsource => ?_
      have hword : (if validated.ending = .complete then ("llm+playwright" : Text) else "llm") =
          "llm+playwright" := Option.some.inj hsource
      rw [if_neg hend] at hword
      exact absurd hword (by decide)
  · rw [hcomplete, hstops]
    change _ ↔ ∀ error ∈ validated.errors ++ errors, _
    rw [List.forall_mem_append]
    exact (and_iff_left (endsValidation_of_compileValidated hcompile)).symm
  · change stageOf validated.ending compilations = _
    cases compilations with
    | nil => by_cases hend : validated.ending = .complete <;> simp [stageOf, resultOf, hend]
    | cons compilation rest => rfl
  · refine ⟨rfl, rfl, fun compilation hmem => ?_⟩
    obtain ⟨output, -, hrun, -⟩ := hcompiled compilation hmem
    exact hrun
  · intro compilation hmem
    obtain ⟨output, houtput, -, hcase⟩ := hcompiled compilation hmem
    exact ⟨output, houtput, hcase⟩

/-- The second of two scenarios cannot be validated, as no page is left for it. -/
theorem run_twoScenarios_consistent :
    ∃ result scenarios start, (run (onePagePlan twoScenariosReply) rehearsal anyObjective 0).value =
        .ok (.ok result) ∧
      result.generation.metadata.validated = false ∧
      result.generation.metadata.stage = "compiled" ∧
      ¬ AllValidated (onePagePlan twoScenariosReply) anyObjective.url start scenarios
        result.generation.outputs := by
  have hcomputed : ((run (onePagePlan twoScenariosReply) rehearsal anyObjective
      0).value.toOption.bind Except.toOption).map (fun result => (result.compilations.length,
        result.errors.any endsValidation)) = some (2, true) := by
    decide +kernel
  obtain ⟨result, hvalue, hfound⟩ := exists_result_of_map_eq_some hcomputed
  obtain ⟨hcount, hstopped⟩ := Prod.mk.inj hfound
  obtain ⟨scenarios, start, -, hresult⟩ := run_consistent hvalue
  have hnot : ¬ result.generation.metadata.validated = true := by
    intro hvalidated
    obtain ⟨error, herror, hends⟩ := List.any_eq_true.mp hstopped
    rw [hresult.errors.mp hvalidated error herror] at hends
    exact absurd hends (by decide)
  have hcompiled : result.compilations ≠ [] := by
    intro hnone
    rw [hnone] at hcount
    exact absurd hcount (by decide)
  refine ⟨result, scenarios, start, hvalue, Bool.eq_false_iff.mpr hnot, ?_, ?_⟩
  · rw [hresult.stage, if_pos hcompiled]
  · exact fun hall => hnot (hresult.validated.mpr hall)

end PageScript.Run
