import Mathlib.Data.List.Forall2
import PageScript.Proofs.CancelledRun
import PageScript.Proofs.CompileErrors
import PageScript.Proofs.ReportedSteps
import PageScript.Proofs.SharedFiles

namespace PageScript

def Scenario.lacksData (scenario : Scenario) : Bool := scenario.steps.any Step.lacksData

theorem Scenario.stepsLackingData_eq_nil_iff {scenario : Scenario} :
    scenario.stepsLackingData = [] ↔ scenario.lacksData = false := by
  rw [stepsLackingData, placesFrom_eq_nil_iff, lacksData, List.any_eq_false]
  simp only [Bool.not_eq_true]

namespace Outcome

/-- What is remarked on a step that is not resolved, with its number from one on. -/
def unresolvedRemark? (outcome : Outcome) (place : Nat) : Option Text :=
  if outcome.resolved then none
  else outcome.warning?.map fun remark => "step " ++ toString (place + 1) ++ ": " ++ remark

/-- What is remarked on the steps that are not resolved, the first step having the place
`first`. -/
def unresolvedRemarks (first : Nat) (outcomes : List Outcome) : List Text :=
  (outcomes.zipIdx first).filterMap fun item => item.1.unresolvedRemark? item.2

theorem unresolvedRemarks_cons (first : Nat) (outcome : Outcome) (outcomes : List Outcome) :
    unresolvedRemarks first (outcome :: outcomes) =
      (outcome.unresolvedRemark? first).toList ++ unresolvedRemarks (first + 1) outcomes := by
  rw [unresolvedRemarks, List.zipIdx_cons, List.filterMap_cons]
  dsimp only
  cases outcome.unresolvedRemark? first <;> rfl

variable {W : Text → Prop}

theorem IsVerdict.unresolvedRemark?_eq {place : Nat} {step : Step} {outcome : Outcome}
    (h : outcome.IsVerdict W place step) (hresolved : outcome.resolved = false) :
    outcome.unresolvedRemark? place =
      some (outcome.numbered (outcome.warning?.getD "None")) := by
  obtain ⟨remark, hremark, -⟩ := h.warning hresolved
  rw [unresolvedRemark?, hresolved, if_neg Bool.false_ne_true, hremark, numbered, h.stepIndex]
  rfl

/-- The numbers that outcomes go by are those of their places. -/
theorem AreVerdicts.unresolvedRemarks_eq {first : Nat} {steps : List Step} {outcomes : List Outcome}
    (h : AreVerdicts W first steps outcomes) :
    ((outcomes.filter fun outcome => !outcome.resolved).map fun outcome =>
      outcome.numbered (outcome.warning?.getD "None")) = unresolvedRemarks first outcomes := by
  induction h with
  | nil first => rfl
  | @cons first step steps outcome outcomes hfirst hrest ih =>
      rw [unresolvedRemarks_cons, List.filter_cons, ← ih]
      cases hresolved : outcome.resolved with
      | true =>
          rw [unresolvedRemark?, hresolved]
          rfl
      | false =>
          rw [hfirst.unresolvedRemark?_eq hresolved]
          rfl

end Outcome

namespace Run

open Routine

variable {σ η : Type} {plan : Plan σ η} {s t : σ}

/-- The output of a scenario that was validated: the draft with its final targets, and
an outcome for each step. -/
structure Output.IsOf (draft : Scenario) (output : Output) : Prop where
  scenario_eq : output.scenario = Validation.withFinalTargets draft output.outcomes
  verdicts : Outcome.AreVerdicts (fun _ => True) 0 draft.steps output.outcomes

theorem Output.IsOf.id_eq {draft : Scenario} {output : Output} (h : output.IsOf draft) :
    output.scenario.id = draft.id := by
  rw [h.scenario_eq]
  rfl

theorem Output.IsOf.lacksData_eq {draft : Scenario} {output : Output} (h : output.IsOf draft) :
    output.scenario.lacksData = draft.lacksData := by
  have hplaces := placesFrom_zipWith Step.lacksData
    (f := fun step (outcome : Outcome) => { step with target := outcome.finalTarget })
    (fun _ _ => rfl) 0 h.verdicts.length_eq
  have hsame : output.scenario.stepsLackingData = draft.stepsLackingData := by
    rw [h.scenario_eq]
    exact hplaces
  rw [Bool.eq_iff_iff, ← not_iff_not, Bool.not_eq_true, Bool.not_eq_true,
    ← Scenario.stepsLackingData_eq_nil_iff, ← Scenario.stepsLackingData_eq_nil_iff, hsame]

def Output.unresolvedEntry? (output : Output) : Option StageError :=
  match Outcome.unresolvedRemarks 0 output.outcomes with
  | [] => none
  | remarks =>
      some ⟨"validation", "StepResolutionWarning", ("; " : Text).intercalate remarks,
        some output.scenario.id⟩

theorem Output.IsOf.unresolved?_eq {draft : Scenario} {output : Output} (h : output.IsOf draft) :
    unresolved? output.scenario.id output.outcomes = output.unresolvedEntry? := by
  unfold unresolved? unresolvedEntry?
  rw [← h.verdicts.unresolvedRemarks_eq]
  cases output.outcomes.filter fun outcome => !outcome.resolved <;> rfl

theorem isOf_of_validateOne (hplan : plan.resolver = Validation.standardResolver) {url : Text}
    {scenario : Scenario} {report : Report}
    (hvalue : (validateOne plan url scenario s).value = .ok (.ok report)) :
    Output.IsOf scenario ⟨report.scenario, report.outcomes⟩ := by
  rw [validateOne, hplan] at hvalue
  obtain ⟨page, outcomes, -, hon, -, rfl⟩ := Validation.value_validate_eq_report_iff.mp hvalue
  have hreads := page.faultsIn_true.toReadsRelated
  exact ⟨rfl, Validation.areVerdicts_of_validateOn (fun _ _ => trivial) (fun _ _ => trivial)
    (fun step index => Resolution.gives_resolve hreads step index (fun _ _ => trivial)
      fun _ _ => trivial)
    (fun _ _ => faults_true _) (fun _ => faults_true _) (fun _ => faults_true _) trivial hon⟩

/-- Whether an entry tells that the run was stopped before its end. -/
def isStop (error : StageError) : Bool := isCancellation error || isNavigationError error

/-- Validation that nothing stops has an output for each scenario, and an entry for
each output with steps that are not resolved. -/
theorem outputs_of_validateAll (hplan : plan.resolver = Validation.standardResolver)
    {runId url : Text} {scenarios : List Scenario} {validated : Validated}
    (h : (validateAll plan runId url scenarios s).result = .ok (validated, t))
    (hthrough : ∀ error ∈ validated.errors, isStop error = false) :
    validated.ending = .complete ∧ List.Forall₂ Output.IsOf scenarios validated.outputs ∧
      validated.errors = validated.outputs.filterMap Output.unresolvedEntry? := by
  induction scenarios generalizing s validated with
  | nil =>
      obtain ⟨rfl, -⟩ := Prod.mk.inj (Except.ok.inj h)
      exact ⟨rfl, .nil, rfl⟩
  | cons scenario rest ih =>
      rcases validateAll_cons_cases h with
        ⟨-, rfl⟩ | ⟨-, ⟨error, -, rfl⟩ | ⟨report, later, hone, hrest, rfl⟩⟩
      · exact absurd (hthrough _ List.mem_cons_self) nofun
      · exact absurd (hthrough _ List.mem_cons_self) nofun
      · obtain ⟨hended, hof, herrors⟩ := ih hrest fun error herror =>
          hthrough error (List.mem_append_right _ herror)
        have hfirst := isOf_of_validateOne hplan hone
        refine ⟨hended, .cons hfirst hof, ?_⟩
        have hentry := hfirst.unresolved?_eq
        rw [hfirst.id_eq] at hentry
        rw [List.filterMap_cons, ← hentry, herrors]
        cases unresolved? scenario.id report.outcomes <;> rfl

end Run

def Suite.Outline.caseIds (outline : Suite.Outline) : List Text := outline.cases.map (·.id)

namespace Run

/-- Compilations of the scenarios that lack no data, and rejections of the others, both
in the order of the scenarios. -/
structure AreSorted (scenarios : List Scenario) (compilations : List Compilation)
    (rejections : List StageError) : Prop where
  compiled : compilations.map (·.outline.caseIds) =
    (scenarios.filter fun scenario => !scenario.lacksData).map fun scenario => [scenario.id]
  suiteId : ∀ compilation ∈ compilations,
    compilation.outline.suiteId = compilation.artifact.suiteId
  rejected : rejections.map (·.scenarioId?) =
    (scenarios.filter Scenario.lacksData).map fun scenario => some scenario.id
  stage : ∀ error ∈ rejections, error.stage = "compilation" ∧ isInputError error = true

namespace AreSorted

variable {scenario : Scenario} {scenarios : List Scenario} {compilations : List Compilation}
  {rejections : List StageError}

theorem nil : AreSorted [] [] [] where
  compiled := rfl
  suiteId _ h := absurd h List.not_mem_nil
  rejected := rfl
  stage _ h := absurd h List.not_mem_nil

theorem reject (h : AreSorted scenarios compilations rejections) (hlacks : scenario.lacksData = true)
    (message : Text) :
    AreSorted (scenario :: scenarios) compilations
      (⟨"compilation", "CompilationInputError", message, some scenario.id⟩ :: rejections) where
  compiled := by simpa [hlacks] using h.compiled
  suiteId := h.suiteId
  rejected := by simpa [hlacks] using h.rejected
  stage := List.forall_mem_cons.mpr ⟨⟨rfl, rfl⟩, h.stage⟩

theorem compile (h : AreSorted scenarios compilations rejections)
    (hcomplete : scenario.lacksData = false) {compilation : Compilation}
    (hcase : compilation.outline.caseIds = [scenario.id])
    (hsuite : compilation.outline.suiteId = compilation.artifact.suiteId) :
    AreSorted (scenario :: scenarios) (compilation :: compilations) rejections where
  compiled := by simpa [hcomplete, hcase] using h.compiled
  suiteId := List.forall_mem_cons.mpr ⟨hsuite, h.suiteId⟩
  rejected := by simpa [hcomplete] using h.rejected
  stage := h.stage

end AreSorted

/-- What becomes of an output that does not end the run: it is compiled, or told to lack
data. -/
theorem compilation?_cases {draft : Scenario} {output : Output} (h : output.IsOf draft)
    {runId : Text} {total index : Nat} (hgoes : fatalError? plan total index output = none) :
    (draft.lacksData = true ∧ compilation? plan runId total index output = none ∧
      ∃ message, inputError? plan total index output =
        some ⟨"compilation", "CompilationInputError", message, some draft.id⟩) ∨
    (draft.lacksData = false ∧ inputError? plan total index output = none ∧
      ∃ artifact, compilation? plan runId total index output =
        some ⟨runId, Suite.Outline.ofScenario output.scenario artifact.suiteId, artifact⟩) := by
  unfold fatalError? at hgoes
  unfold compilation? inputError?
  rw [← h.lacksData_eq]
  cases hcompiled : Suite.compile output.scenario (optionsFor plan.options index total)
      output.outcomes with
  | ok artifact =>
      have hcomplete := (Suite.compileError?_eq_none_iff.mp
        (Suite.compile_isOk_iff.mp ⟨artifact, hcompiled⟩)).1
      exact .inr ⟨Scenario.stepsLackingData_eq_nil_iff.mp hcomplete, rfl, artifact, rfl⟩
  | error error =>
      rw [hcompiled] at hgoes
      cases error with
      | lacksData name places =>
          obtain ⟨hplaces, -, rfl⟩ := Suite.compileError?_eq_lacksData_iff.mp
            (Suite.compile_eq_error_iff.mp hcompiled)
          have hlacks : output.scenario.lacksData = true := by
            rw [← Bool.not_eq_false, ← Scenario.stepsLackingData_eq_nil_iff]
            exact hplaces
          exact .inl ⟨hlacks, rfl, _, by rw [h.id_eq]⟩
      | noName found => exact nomatch hgoes
      | pauseTooLong count => exact nomatch hgoes

theorem areSorted_of_compileAll {runId : Text} {total index : Nat} {scenarios : List Scenario}
    {outputs : List Output} (hof : List.Forall₂ Output.IsOf scenarios outputs)
    {compilations : List Compilation} {errors : List StageError}
    (h : (compileAll plan runId total index outputs s).result =
      .ok (.ok (compilations, errors), t))
    (hthrough : ∀ error ∈ errors, isStop error = false) :
    AreSorted scenarios compilations errors := by
  induction hof generalizing index s compilations errors with
  | nil =>
      obtain ⟨rfl, rfl⟩ := Prod.mk.inj (Except.ok.inj (Prod.mk.inj (Except.ok.inj h)).1)
      exact .nil
  | cons hfirst hrest ih =>
      rcases compileAll_cons_cases h with hended | ⟨problem, hended⟩ | ⟨later, hgoes, hlater, hended⟩
      · obtain ⟨-, rfl⟩ := Prod.mk.inj (Except.ok.inj hended)
        exact absurd (hthrough _ List.mem_cons_self) nofun
      · exact nomatch hended
      · cases later with
        | error problem => exact nomatch hended
        | ok found =>
            obtain ⟨rfl, rfl⟩ := Prod.mk.inj (Except.ok.inj hended)
            have hsorted := ih hlater fun error herror =>
              hthrough error (List.mem_append_right _ herror)
            rcases compilation?_cases hfirst hgoes with
              ⟨hlacks, hnone, message, hrejected⟩ | ⟨hcomplete, hnone, artifact, hcompiled⟩
            · rw [hnone, hrejected]
              exact hsorted.reject hlacks message
            · rw [hnone, hcompiled]
              exact hsorted.compile hcomplete (congrArg (fun id => [id]) hfirst.id_eq) rfl

def isUnresolvedEntry (error : StageError) : Bool := error.kind == "StepResolutionWarning"

/-- What a result tells of scenarios that nothing kept from being compiled or rejected. -/
structure Result.Sorts (scenarios : List Scenario) (result : Result) : Prop where
  outputs : List.Forall₂ Output.IsOf scenarios result.generation.outputs
  compiled : ∀ scenario ∈ scenarios,
    result.compilations.countP (fun compilation => compilation.outline.caseIds == [scenario.id]) =
      if scenario.lacksData then 0 else 1
  rejected : ∀ scenario ∈ scenarios,
    result.errors.countP (fun error => isInputError error && error.scenarioId? == some scenario.id) =
      if scenario.lacksData then 1 else 0
  warned : ∀ output ∈ result.generation.outputs,
    result.errors.filter (fun error =>
        isUnresolvedEntry error && error.scenarioId? == some output.scenario.id) =
      output.unresolvedEntry?.toList
  errors : ∃ rejections,
    result.errors = result.generation.outputs.filterMap Output.unresolvedEntry? ++ rejections ∧
      AreSorted scenarios result.compilations rejections

end Run

section Lists

variable {α β : Type}

theorem count_map_filter [BEq β] [LawfulBEq β] {items : List α} {f : α → β}
    (hitems : (items.map f).Nodup) (p : α → Bool) {a : α} (ha : a ∈ items) :
    ((items.filter p).map f).count (f a) = if p a then 1 else 0 := by
  split
  · rename_i hp
    have hmem : f a ∈ (items.filter p).map f := List.mem_map_of_mem (List.mem_filter.mpr ⟨ha, hp⟩)
    exact List.count_eq_one_of_mem (hitems.sublist (List.filter_sublist.map f)) hmem
  · rename_i hp
    rw [List.count_eq_zero]
    intro hmem
    obtain ⟨b, hb, hsame⟩ := List.mem_map.mp hmem
    obtain ⟨hb, hpb⟩ := List.mem_filter.mp hb
    exact hp (List.inj_on_of_nodup_map hitems hb ha hsame ▸ hpb)

theorem filter_filterMap_eq {items : List α} (hitems : items.Nodup) {g : α → Option β}
    {p : β → Bool} {a : α} (ha : a ∈ items)
    (hp : ∀ x ∈ items, ∀ b, g x = some b → (p b = true ↔ x = a)) :
    (items.filterMap g).filter p = (g a).toList := by
  have hothers : ∀ others : List α, a ∉ others → (∀ x ∈ others, x ∈ items) →
      (others.filterMap g).filter p = [] := by
    intro others hnone hsub
    rw [List.filter_eq_nil_iff]
    intro b hb hpb
    obtain ⟨x, hx, hxb⟩ := List.mem_filterMap.mp hb
    exact hnone ((hp x (hsub x hx) b hxb).mp hpb ▸ hx)
  obtain ⟨before, after, rfl⟩ := List.append_of_mem ha
  have hdistinct := List.nodup_append.mp hitems
  have hbefore : a ∉ before := fun h => hdistinct.2.2 a h a List.mem_cons_self rfl
  have hafter : a ∉ after := (List.nodup_cons.mp hdistinct.2.1).1
  rw [List.filterMap_append, List.filter_append, List.filterMap_cons,
    hothers before hbefore fun x hx => List.mem_append_left _ hx]
  have hrest := hothers after hafter fun x hx => List.mem_append_right _ (List.mem_cons_of_mem a hx)
  cases hg : g a with
  | none => simpa using hrest
  | some b =>
      have hpb : p b = true := (hp a ha b hg).mpr rfl
      simpa [hpb] using hrest

theorem nodup_map_map {γ : Type} {items : List α} {key : α → β} (hkeys : (items.map key).Nodup)
    {f : β → γ} (hf : Function.Injective f) : (items.map fun a => f (key a)).Nodup := by
  have hmap := hkeys.map hf
  rwa [List.map_map] at hmap

theorem filter_filterMap_key {κ : Type} [BEq κ] [LawfulBEq κ] {items : List α} {key : α → κ}
    (hkeys : (items.map key).Nodup) {g : α → Option β} {keyOf : β → κ}
    (hg : ∀ a b, g a = some b → keyOf b = key a) {a : α} (ha : a ∈ items) :
    (items.filterMap g).filter (fun b => keyOf b == key a) = (g a).toList := by
  refine filter_filterMap_eq hkeys.of_map ha fun other hother b hb => ?_
  rw [hg other b hb, beq_iff_eq]
  exact ⟨fun hsame => List.inj_on_of_nodup_map hkeys hother ha hsame, fun hsame => congrArg key hsame⟩

theorem filterMap_zipIdx_fst (items : List α) (g : α → Option β) :
    (items.zipIdx.filterMap fun place => g place.1) = items.filterMap g := by
  conv_rhs => rw [← List.zipIdx_map_fst 0 items]
  rw [List.filterMap_map]
  rfl

theorem exists_forall₂ {R : α → β → Prop} {items : List α} (h : ∀ a ∈ items, ∃ b, R a b) :
    ∃ others, List.Forall₂ R items others := by
  induction items with
  | nil => exact ⟨[], .nil⟩
  | cons a rest ih =>
      obtain ⟨⟨b, hb⟩, hrest⟩ := List.forall_mem_cons.mp h
      obtain ⟨others, hothers⟩ := ih hrest
      exact ⟨b :: others, .cons hb hothers⟩

theorem exists_of_forall₂ {R : α → β → Prop} {items : List α} {others : List β}
    (h : List.Forall₂ R items others) {i : Nat} {a : α} (ha : items[i]? = some a) :
    ∃ b, others[i]? = some b ∧ R a b := by
  induction h generalizing i with
  | nil => exact nomatch ha
  | @cons first second rest more hfirst hrest ih =>
      cases i with
      | zero =>
          obtain rfl := Option.some.inj ha
          exact ⟨second, rfl, hfirst⟩
      | succ i => exact ih ha

end Lists

theorem Reply.nodup_id {depth : Nat} {reply runId : Text} {scenarios : List Scenario}
    (h : Reply.scenarios depth reply runId = .ok scenarios) : (scenarios.map (·.id)).Nodup := by
  rw [List.Nodup, List.pairwise_map, List.pairwise_iff_getElem]
  intro i j hi hj hij hsame
  have hfirst := scenarios_id h (List.getElem?_eq_getElem hi)
  have hsecond := scenarios_id h (List.getElem?_eq_getElem hj)
  rw [hfirst, hsecond] at hsame
  have hnumber := Name.number_injective (List.append_cancel_left hsame)
  omega

namespace Run

theorem Output.IsOf.map_id {scenarios : List Scenario} {outputs : List Output}
    (hof : List.Forall₂ Output.IsOf scenarios outputs) :
    outputs.map (·.scenario.id) = scenarios.map (·.id) := by
  induction hof with
  | nil => rfl
  | cons hfirst hrest ih => rw [List.map_cons, List.map_cons, hfirst.id_eq, ih]

theorem Output.unresolvedEntry?_eq_some {output : Output} {error : StageError}
    (h : output.unresolvedEntry? = some error) :
    isUnresolvedEntry error = true ∧ error.scenarioId? = some output.scenario.id := by
  unfold unresolvedEntry? at h
  split at h
  · exact nomatch h
  · obtain rfl := Option.some.inj h
    exact ⟨rfl, rfl⟩

theorem isUnresolvedEntry_of_isInputError {error : StageError} (h : isInputError error = true) :
    isUnresolvedEntry error = false :=
  kind_beq_of_ne h (by decide)

theorem Output.isInputError_of_unresolvedEntry? {output : Output} {error : StageError}
    (h : output.unresolvedEntry? = some error) : isInputError error = false :=
  kind_beq_of_ne (unresolvedEntry?_eq_some h).1 (by decide)

theorem AreSorted.sorts {scenarios : List Scenario} {result : Result} {rejections : List StageError}
    (hids : (scenarios.map (·.id)).Nodup)
    (hof : List.Forall₂ Output.IsOf scenarios result.generation.outputs)
    (hsorted : AreSorted scenarios result.compilations rejections)
    (herrors : result.errors =
      result.generation.outputs.filterMap Output.unresolvedEntry? ++ rejections) :
    result.Sorts scenarios where
  outputs := hof
  compiled scenario hscenario := by
    -- The ids differ, so a compilation counts for one scenario only.
    have hcases : (scenarios.map fun scenario => [scenario.id]).Nodup :=
      nodup_map_map hids List.singleton_injective
    have hcount := count_map_filter hcases (fun scenario => !scenario.lacksData) hscenario
    rw [← hsorted.compiled, List.count, List.countP_map] at hcount
    refine hcount.trans ?_
    cases scenario.lacksData <;> rfl
  rejected scenario hscenario := by
    have hkeys : (scenarios.map fun scenario => some scenario.id).Nodup :=
      nodup_map_map hids fun _ _ => Option.some.inj
    have hcount := count_map_filter hkeys Scenario.lacksData hscenario
    rw [← hsorted.rejected, List.count, List.countP_map] at hcount
    have hwarnings : (result.generation.outputs.filterMap Output.unresolvedEntry?).countP
        (fun error => isInputError error && error.scenarioId? == some scenario.id) = 0 := by
      rw [List.countP_eq_zero]
      intro error herror
      obtain ⟨output, -, houtput⟩ := List.mem_filterMap.mp herror
      rw [Output.isInputError_of_unresolvedEntry? houtput, Bool.false_and]
      exact Bool.false_ne_true
    rw [herrors, List.countP_append, hwarnings, Nat.zero_add, ← hcount]
    refine List.countP_congr fun error herror => ?_
    rw [(hsorted.stage error herror).2, Bool.true_and]
    rfl
  warned output houtput := by
    have hdistinct : (result.generation.outputs.map (·.scenario.id)).Nodup := by
      rw [Output.IsOf.map_id hof]
      exact hids
    have hrejections : rejections.filter (fun error =>
        isUnresolvedEntry error && error.scenarioId? == some output.scenario.id) = [] := by
      rw [List.filter_eq_nil_iff]
      intro error herror hwarning
      rw [isUnresolvedEntry_of_isInputError (hsorted.stage error herror).2] at hwarning
      exact nomatch hwarning
    rw [herrors, List.filter_append, hrejections, List.append_nil]
    refine filter_filterMap_eq hdistinct.of_map houtput fun other hother error herror => ?_
    obtain ⟨hwarning, hid⟩ := Output.unresolvedEntry?_eq_some herror
    rw [hwarning, hid, Bool.true_and, beq_iff_eq, Option.some.injEq]
    exact ⟨fun hsame => List.inj_on_of_nodup_map hdistinct hother houtput hsame,
      fun hsame => congrArg (·.scenario.id) hsame⟩
  errors := ⟨rejections, herrors, hsorted⟩

theorem ValidatesTo.isCancellation_eq_false {url : Text} {scenarios : List Scenario} {k : Nat}
    {validated : Validated} (h : ValidatesTo plan url s scenarios k validated t) :
    ∀ error ∈ validated.errors, isCancellation error = false := by
  induction h with
  | complete s => exact fun error herror => absurd herror List.not_mem_nil
  | stopped hreaches hresult =>
      intro error herror
      obtain rfl := List.mem_singleton.mp herror
      rfl
  | next hreaches hresult hreport hlater ih =>
      intro error herror
      rcases List.mem_append.mp herror with hfirst | hrest
      · rw [isCancellation, unresolved?_kind (Option.mem_toList.mp hfirst)]
        decide
      · exact ih error hrest

section

variable {occasion : Occasion} {objective : Objective} {reply : Text} {scenarios : List Scenario}
  {start : σ}

theorem sorts_of_run (hplan : plan.resolver = Validation.standardResolver)
    (hreply : (Generation.generate plan.client? plan.model objective (plan.meanwhile s)).result =
      .ok (.ok reply, start))
    (hparsed : Reply.scenarios plan.replyDepth reply occasion.runId = .ok scenarios)
    {result : Result}
    (hvalue : (run plan occasion objective s).value = .ok (.ok result))
    (hthrough : ∀ error ∈ result.errors, isStop error = false) : result.Sorts scenarios := by
  obtain ⟨found, asked, validated, middle, compilations, errors, _, hfound, hvalidated, hcompiled,
    rfl⟩ := exists_of_run_eq_ok hvalue
  have hgenerated := (result_generate hreply hparsed).symm.trans hfound
  obtain ⟨hsame, rfl⟩ := Prod.mk.inj (Except.ok.inj hgenerated)
  obtain rfl := Except.ok.inj hsame
  obtain ⟨hending, hof, herrors⟩ := outputs_of_validateAll hplan hvalidated
    fun error herror => hthrough error (List.mem_append_left _ herror)
  have hnotCancelled : validated.ending ≠ .cancelled := by
    rw [hending]
    exact nofun
  rw [compileValidated, if_neg hnotCancelled] at hcompiled
  have hsorted := areSorted_of_compileAll hof hcompiled
    fun error herror => hthrough error (List.mem_append_right _ herror)
  exact hsorted.sorts (Reply.nodup_id hparsed) hof (congrArg (· ++ errors) herrors)

/-- Every result of a run that nothing stopped sorts its scenarios.  And where nobody
cancels the run and every page can be reached, there is such a result, unless a scenario
makes no name, which leaves the run without one. -/
theorem run_sorts (hplan : plan.resolver = Validation.standardResolver)
    (hreply : (Generation.generate plan.client? plan.model objective (plan.meanwhile s)).result =
      .ok (.ok reply, start))
    (hparsed : Reply.scenarios plan.replyDepth reply occasion.runId = .ok scenarios) :
    (∀ result, (run plan occasion objective s).value = .ok (.ok result) →
      (∀ error ∈ result.errors, isStop error = false) → result.Sorts scenarios) ∧
    ∀ I, plan.IsCalm I → I s → I start →
      (∀ scenario ∈ scenarios, ∀ step ∈ scenario.steps, Suite.excessDigits? step = none) →
      (∀ i < scenarios.length, Reaches plan objective.url
        (stateAt plan objective.url start scenarios i)) →
      (plan.Contains scenarios → ∃ result,
        (run plan occasion objective s).value = .ok (.ok result) ∧
          ∀ error ∈ result.errors, isStop error = false) ∧
      (¬ plan.Contains scenarios → ∃ found,
        (run plan occasion objective s).value = .ok (.error (.compilation (.noName found)))) := by
  refine ⟨fun result => sorts_of_run hplan hreply hparsed, ?_⟩
  intro I hcalm hs hstart hdigits hreaches
  rw [hcalm.undisturbed s hs] at hreply
  obtain ⟨k, validated, hvalidated, hend⟩ := result_run hcalm hs hstart hreply hparsed hdigits
  -- Every page is reached, so validation gets to the last scenario.
  have hk : ¬ k < scenarios.length := fun hlt => hvalidated.reaches_iff.2 hlt (hreaches k hlt)
  rcases hend with ⟨hcontains, compilations, errors, hvalue, herrors⟩ | ⟨hnot, found, hvalue⟩
  · refine ⟨fun _ => ⟨_, hvalue, ?_⟩, fun hnot => absurd hcontains hnot⟩
    intro error herror
    rw [isStop, Bool.or_eq_false_iff]
    rcases List.mem_append.mp herror with hearly | hlate
    · have hcount := hvalidated.countP_errors
      rw [if_neg hk, List.countP_eq_zero] at hcount
      exact ⟨hvalidated.isCancellation_eq_false error hearly,
        Bool.eq_false_iff.mpr (hcount error hearly)⟩
    · have hinput := herrors error hlate
      exact ⟨isCancellation_of_isInputError hinput, isNavigationError_of_isInputError hinput⟩
  · exact ⟨fun hcontains => absurd hcontains hnot, fun _ => ⟨found, hvalue⟩⟩

end

def emptyPagesPlan (reply : Text) : Plan Nat Unit :=
  { onePagePlan reply with openPage := pure emptyPage }

theorem emptyPagesPlan_isCalm (reply : Text) : (emptyPagesPlan reply).IsCalm fun _ => True where
  resolver := rfl
  notCancelled _ _ := rfl
  undisturbed _ _ := rfl
  opening := .pure emptyPage
  page _ page _ hopened := by
    obtain rfl : emptyPage = page := Except.ok.inj hopened
    exact emptyPage_calmIn _
  closing _ page _ hopened _ _ := by
    obtain rfl : emptyPage = page := Except.ok.inj hopened
    exact ⟨rfl, trivial⟩

theorem reaches_emptyPagesPlan (reply url : Text) (s : Nat) : Reaches (emptyPagesPlan reply) url s :=
  ⟨emptyPage, rfl, rfl⟩

def mixedReply : Text :=
  "[\x7b\"name\":\"a\",\"steps\":[\x7b\"action\":\"click\",\"target\":\"#a\"\x7d]\x7d," ++
    "\x7b\"name\":\"b\",\"steps\":[\x7b\"action\":\"fill\",\"target\":\"#b\"\x7d]\x7d]"

def unfilledScenario : Scenario := ⟨"run-2", "b", none, [⟨.fill, "#b", none, ""⟩], []⟩

theorem run_mixedReply_sorts :
    ∃ result, (run (emptyPagesPlan mixedReply) rehearsal anyObjective 0).value =
        .ok (.ok result) ∧
      result.Sorts [firstScenario, unfilledScenario] ∧
      result.compilations.map (·.outline.caseIds) = [[firstScenario.id]] := by
  have hparsed : Reply.scenarios Datum.Json.maxDepth mixedReply rehearsal.runId =
      .ok [firstScenario, unfilledScenario] := by
    decide +kernel
  have hcontains : (emptyPagesPlan mixedReply).Contains [firstScenario, unfilledScenario] := by
    intro i scenario hscenario
    have hnames : ∀ scenario ∈ [firstScenario, unfilledScenario],
        Suite.HasNames scenario (emptyPagesPlan mixedReply).options := by
      decide +kernel
    exact Or.inr (hnames scenario (List.mem_of_getElem? hscenario))
  have hreply : (Generation.generate (emptyPagesPlan mixedReply).client?
      (emptyPagesPlan mixedReply).model anyObjective 0).result = .ok (.ok mixedReply, 0) :=
    Done.result_eq_ok_iff.mpr ⟨by decide +kernel, rfl⟩
  obtain ⟨hsorts, hends⟩ := run_sorts rfl hreply hparsed
  obtain ⟨hresult, -⟩ := hends _ (emptyPagesPlan_isCalm mixedReply) trivial trivial
    (by decide +kernel) fun _ _ => reaches_emptyPagesPlan _ _ _
  obtain ⟨result, hvalue, hthrough⟩ := hresult hcontains
  have hresult := hsorts result hvalue hthrough
  obtain ⟨rejections, -, hsorted⟩ := hresult.errors
  exact ⟨result, hvalue, hresult, hsorted.compiled⟩

def surrogateFirstReply : Text :=
  "[\x7b\"name\":\"\\ud800\",\"steps\":[]\x7d," ++
    "\x7b\"name\":\"b\",\"steps\":[\x7b\"action\":\"fill\",\"target\":\"#b\"\x7d]\x7d]"

/-- No scenario is compiled or rejected if the name of one is a surrogate: there is no
result. -/
theorem run_surrogateFirst_unsorted :
    (emptyPagesPlan surrogateFirstReply).IsCalm (fun _ => True) ∧
      (∀ s, Reaches (emptyPagesPlan surrogateFirstReply) anyObjective.url s) ∧
      Reply.scenarios Datum.Json.maxDepth surrogateFirstReply rehearsal.runId =
        .ok [⟨"run-1", [.surrogate 0], none, [], []⟩, unfilledScenario] ∧
      unfilledScenario.lacksData = true ∧
      ∃ found, (run (emptyPagesPlan surrogateFirstReply) rehearsal anyObjective 0).value =
        .ok (.error (.compilation (.noName found))) :=
  ⟨emptyPagesPlan_isCalm _, reaches_emptyPagesPlan _ _, by decide +kernel, by decide,
    ⟨.surrogate 0, 0, 0⟩, by decide +kernel⟩

end Run

end PageScript
