import PageScript.Proofs.EncodableNames
import PageScript.Proofs.SteadyRuns

namespace PageScript.Run

open Routine

variable {σ ω η : Type} {I : σ → Prop} {plan : Plan σ η} {model : Page ω η} {fresh : ω}
  {occasion : Occasion} {objective : Objective} {url runId : Text} {s : σ}
  {scenario : Scenario} {scenarios : List Scenario} {output : Output} {outputs : List Output}

namespace Output

def withId (id : Text) (output : Output) : Output :=
  { output with scenario := output.scenario.withId id }

end Output

def StageError.withScenarioId (id : Text) (error : StageError) : StageError :=
  { error with scenarioId? := some id }

namespace Output

theorem pageObjects?_withId (options : Suite.Options) (id : Text) (output : Output) :
    (output.withId id).pageObjects? options =
      (output.pageObjects? options).map fun found => ([id], found.2) := by
  have hplaces : (output.withId id).scenario.stepsLackingData = output.scenario.stepsLackingData := rfl
  unfold pageObjects?
  rw [hplaces]
  cases output.scenario.stepsLackingData <;> rfl

theorem unresolvedEntry?_withId (id : Text) (output : Output) :
    Output.unresolvedEntry? (output.withId id) =
      output.unresolvedEntry?.map (StageError.withScenarioId id) := by
  have hremarks : Outcome.unresolvedRemarks 0 (output.withId id).outcomes =
      Outcome.unresolvedRemarks 0 output.outcomes := rfl
  unfold unresolvedEntry?
  rw [hremarks]
  cases Outcome.unresolvedRemarks 0 output.outcomes <;> rfl

theorem rejection?_withId (id : Text) (output : Output) :
    (output.withId id).rejection? = output.rejection?.map (StageError.withScenarioId id) := by
  have hplaces : (output.withId id).scenario.stepsLackingData = output.scenario.stepsLackingData := rfl
  unfold rejection?
  rw [hplaces]
  cases output.scenario.stepsLackingData <;> rfl

end Output

theorem IsRehearsed.withId (h : IsRehearsed model fresh url scenario output) (id : Text) :
    IsRehearsed model fresh url (scenario.withId id) (output.withId id) := by
  obtain ⟨hon, hclosed, hscenario⟩ := isRehearsed_iff.mp h
  refine isRehearsed_iff.mpr ⟨hon, hclosed, ?_⟩
  change output.scenario.withId id = _
  rw [hscenario]
  rfl

theorem forall_getElem?_singleton {α : Type} {P : Nat → α → Prop} {a : α} :
    (∀ (i : Nat) b, [a][i]? = some b → P i b) ↔ P 0 a := by
  constructor
  · intro h
    exact h 0 a rfl
  · intro ha i b hb
    cases i with
    | zero =>
        obtain rfl := Option.some.inj hb
        exact ha
    | succ i => exact nomatch hb

/-- What a result tells of the scenario at a place is what another one tells that has this
scenario alone, up to its id. -/
structure Result.AgreesAt (runId : Text) (i : Nat) (result single : Result) : Prop where
  output : ∃ output, result.generation.outputs[i]? = some output ∧
    output.scenario.id = idAt runId i ∧
    single.generation.outputs = [output.withId (idAt runId 0)]
  pageObjects : (result.compilations.filter fun compilation =>
      compilation.outline.caseIds == [idAt runId i]).map (·.artifact.pageObjects) =
    single.compilations.map (·.artifact.pageObjects)
  errors : (result.errors.filter fun error => error.scenarioId? == some (idAt runId i)).map
      (StageError.withScenarioId (idAt runId 0)) = single.errors

theorem agreesAt_rehearsedResult (client? : Option (ModelClient σ)) {i : Nat}
    (hids : (outputs.map (·.scenario.id)).Nodup) (houtput : outputs[i]? = some output)
    (hid : output.scenario.id = idAt occasion.runId i)
    (hgoes : ∀ (i : Nat) output, outputs[i]? = some output →
      fatalError? plan outputs.length i output = none)
    (halone : fatalError? plan 1 0 (output.withId (idAt occasion.runId 0)) = none) :
    (rehearsedResult plan occasion outputs).AgreesAt occasion.runId i
      (rehearsedResult { plan with client? := client? } occasion
        [output.withId (idAt occasion.runId 0)]) := by
  have hmem := List.mem_of_getElem? houtput
  have hsingle : ∀ (j : Nat) found, [output.withId (idAt occasion.runId 0)][j]? = some found →
      fatalError? { plan with client? := client? } 1 j found = none :=
    forall_getElem?_singleton.mpr halone
  have hsole : ∀ {β : Type} (f : Output → Option β),
      [output.withId (idAt occasion.runId 0)].filterMap f =
        (f (output.withId (idAt occasion.runId 0))).toList := by
    intro β f
    rw [List.filterMap_cons, List.filterMap_nil]
    cases f (output.withId (idAt occasion.runId 0)) <;> rfl
  constructor
  · exact ⟨output, houtput, hid, rfl⟩
  · have hone := congrArg (List.map Prod.snd) (rehearsedResult_pageObjects occasion hsingle)
    rw [List.map_map, hsole, Output.pageObjects?_withId] at hone
    rw [← hid, rehearsedResult_pageObjects_at occasion hids hmem hgoes]
    refine Eq.trans ?_ hone.symm
    cases output.pageObjects? plan.options <;> rfl
  · rw [← hid, rehearsedResult_errors_at plan occasion hids hmem, rehearsedResult_errors, hsole,
      hsole, Output.unresolvedEntry?_withId, Output.rejection?_withId, List.map_append,
      Option.toList_map, Option.toList_map]

section Runs

variable {clients : Nat → Option (ModelClient σ)} {starts : Nat → σ} {reply : Text} {i : Nat}

theorem id_of_rehearsed
    (hparsed : Reply.scenarios plan.replyDepth reply occasion.runId = .ok scenarios)
    (hscenario : scenarios[i]? = some scenario)
    (houtput : IsRehearsed model fresh url scenario output) :
    output.scenario.id = idAt occasion.runId i := by
  obtain ⟨-, -, hdraft⟩ := isRehearsed_iff.mp houtput
  rw [hdraft]
  change scenario.id = _
  exact Reply.scenarios_id hparsed hscenario

theorem value_run_alone_eq_ok_iff (hplan : plan.IsSteady I model fresh)
    (hvisit : (model.visit objective.url fresh).value = .ok ()) {client? : Option (ModelClient σ)}
    (halone : ({ plan with client? := client? } : Plan σ η).Proposes I occasion objective s
      [scenario.withId (idAt occasion.runId 0)]) {single : Result} :
    (run { plan with client? := client? } occasion objective s).value = .ok (.ok single) ↔
      ∃ output, IsRehearsed model fresh objective.url scenario output ∧
        fatalError? plan 1 0 (output.withId (idAt occasion.runId 0)) = none ∧
        single = rehearsedResult { plan with client? := client? } occasion
          [output.withId (idAt occasion.runId 0)] := by
  have hsteady : ({ plan with client? := client? } : Plan σ η).IsSteady I model fresh :=
    ⟨hplan.resolver, hplan.notCancelled, hplan.meanwhile, hplan.opens⟩
  rw [hsteady.value_run_eq_ok_iff hvisit halone]
  constructor
  · rintro ⟨outputs, houtputs, hgoes, rfl⟩
    cases houtputs with
    | @cons _ found _ none hfound hnone =>
        cases hnone
        have hback := hfound.withId scenario.id
        refine ⟨found.withId scenario.id, hback, ?_⟩
        obtain ⟨-, -, hdraft⟩ := isRehearsed_iff.mp hfound
        have hsame : (found.withId scenario.id).withId (idAt occasion.runId 0) = found := by
          have hid : found.scenario.id = idAt occasion.runId 0 := by
            rw [hdraft]
            rfl
          rw [← hid]
          rfl
        rw [hsame]
        exact ⟨forall_getElem?_singleton.mp hgoes, rfl⟩
  · rintro ⟨output, houtput, hgoes, rfl⟩
    exact ⟨[output.withId (idAt occasion.runId 0)], .cons (houtput.withId _) .nil,
      forall_getElem?_singleton.mpr hgoes, rfl⟩

theorem fatalError?_alone_iff {total : Nat} (hid : output.scenario.id = idAt occasion.runId i) :
    fatalError? plan total i output = none ↔
      fatalError? plan 1 0 (output.withId (idAt occasion.runId 0)) = none := by
  have hsame : output.scenario.withId (idAt occasion.runId i) = output.scenario := by
    rw [← hid]
    rfl
  have hnames : Suite.HasNames output.scenario (optionsFor plan.options i total) ↔
      Suite.HasNames (output.scenario.withId (idAt occasion.runId 0))
        (optionsFor plan.options 0 1) := by
    rw [hasNames_idAt_iff, ← hasNames_idAt_iff plan.options i i total, hsame]
  rw [fatalError?_eq_none_iff, fatalError?_eq_none_iff, hnames]
  rfl

/-- On a model that is not interrupted, and does not fail to close, every scenario has an
output. -/
theorem exists_isRehearsed {J : ω → Prop} (hmodel : model.CalmIn J) (hfresh : J fresh)
    (hvisit : (model.visit url fresh).value = .ok ())
    (hclose : ∀ w, J w → (model.close w).value = .ok ()) (scenario : Scenario) :
    ∃ output, IsRehearsed model fresh url scenario output ∧
      Report.IsFor scenario ⟨output.scenario, output.outcomes⟩ := by
  have hstart := (hmodel.visit url).keeps fresh hfresh
  obtain ⟨progress, hrun, hprogress⟩ := Validation.run_of_calm hmodel scenario.steps hstart
  have hopened : (openingOf model fresh fresh).result = .ok (model, fresh) := rfl
  have hresult := Validation.result_validate_of_ok hopened
    (Done.result_eq_ok_iff.mpr ⟨hvisit, rfl⟩) hrun (hclose _ hprogress)
  exact ⟨⟨_, progress.outcomes⟩, (Done.result_eq_ok_iff.mp hresult).1,
    (Validation.isStepwise_of_run hrun).isFor⟩

theorem fatalError?_iff_isContained {J : ω → Prop} (hmodel : model.CalmIn J) (hfresh : J fresh)
    (hvisit : (model.visit url fresh).value = .ok ())
    (hclose : ∀ w, J w → (model.close w).value = .ok ())
    (hdigits : ∀ step ∈ scenario.steps, Suite.excessDigits? step = none)
    (houtput : IsRehearsed model fresh url scenario output) (plan : Plan σ η) (total i : Nat) :
    fatalError? plan total i output = none ↔
      Suite.IsContained scenario (optionsFor plan.options i total) := by
  obtain ⟨found, hfound, hreport⟩ := exists_isRehearsed hmodel hfresh hvisit hclose scenario
  obtain rfl := hfound.unique houtput
  rw [← hreport.isContained_iff]
  rcases fatalError?_cases plan total i (hreport.excessDigits?_eq_none hdigits) with
    ⟨hcontained, hnone⟩ | ⟨hnot, error, herror⟩
  · exact iff_of_true hnone hcontained
  · refine iff_of_false (fun hnone => ?_) hnot
    rw [hnone] at herror
    exact nomatch herror

/-- A run on such a model has a result unless a scenario makes no name. -/
theorem exists_result_iff_contains (hplan : plan.IsSteady I model fresh)
    (hvisit : (model.visit objective.url fresh).value = .ok ())
    (hproposes : plan.Proposes I occasion objective s scenarios) {J : ω → Prop}
    (hmodel : model.CalmIn J) (hfresh : J fresh)
    (hclose : ∀ w, J w → (model.close w).value = .ok ())
    (hdigits : ∀ scenario ∈ scenarios, ∀ step ∈ scenario.steps, Suite.excessDigits? step = none) :
    (∃ result, (run plan occasion objective s).value = .ok (.ok result)) ↔
      plan.Contains scenarios := by
  have hcontained {i : Nat} {scenario : Scenario} {output : Output}
      (hscenario : scenarios[i]? = some scenario)
      (houtput : IsRehearsed model fresh objective.url scenario output) :=
    fatalError?_iff_isContained hmodel hfresh hvisit hclose
      (hdigits scenario (List.mem_of_getElem? hscenario)) houtput plan scenarios.length i
  have hgoes : ∀ outputs,
      List.Forall₂ (IsRehearsed model fresh objective.url) scenarios outputs →
      ((∀ (i : Nat) output, outputs[i]? = some output →
        fatalError? plan outputs.length i output = none) ↔ plan.Contains scenarios) := by
    intro outputs houtputs
    rw [← houtputs.length_eq]
    constructor
    · intro hnone i scenario hscenario
      obtain ⟨output, houtput, hrehearsed⟩ := exists_of_forall₂ houtputs hscenario
      exact (hcontained hscenario hrehearsed).mp (hnone i output houtput)
    · intro hcontains i output houtput
      obtain ⟨scenario, hscenario, hrehearsed⟩ := exists_of_forall₂ houtputs.flip houtput
      exact (hcontained hscenario hrehearsed).mpr (hcontains i scenario hscenario)
  simp only [hplan.value_run_eq_ok_iff hvisit hproposes]
  constructor
  · rintro ⟨result, outputs, houtputs, hnone, -⟩
    exact (hgoes outputs houtputs).mp hnone
  · intro hcontains
    obtain ⟨outputs, houtputs⟩ := exists_forall₂ fun scenario (_ : scenario ∈ scenarios) =>
      (exists_isRehearsed hmodel hfresh hvisit hclose scenario).imp fun _ h => h.1
    exact ⟨_, outputs, houtputs, (hgoes outputs houtputs).mpr hcontains, rfl⟩

theorem Plan.Proposes.exists_reply (h : plan.Proposes I occasion objective s scenarios) :
    ∃ reply, Reply.scenarios plan.replyDepth reply occasion.runId = .ok scenarios := by
  obtain ⟨-, reply, -, -, -, hparsed⟩ := h
  exact ⟨reply, hparsed⟩

section Alone

variable (hplan : plan.IsSteady I model fresh)
  (hvisit : (model.visit objective.url fresh).value = .ok ())
  (hproposes : plan.Proposes I occasion objective s scenarios)
  (halone : ∀ (i : Nat) scenario, scenarios[i]? = some scenario →
    ({ plan with client? := clients i } : Plan σ η).Proposes I occasion objective (starts i)
      [scenario.withId (idAt occasion.runId 0)])

include hplan hvisit hproposes halone

theorem exists_result_iff_forall_alone :
    (∃ result, (run plan occasion objective s).value = .ok (.ok result)) ↔
      ∀ i < scenarios.length, ∃ single,
        (run { plan with client? := clients i } occasion objective (starts i)).value =
          .ok (.ok single) := by
  obtain ⟨reply, hparsed⟩ := hproposes.exists_reply
  constructor
  · rintro ⟨result, hresult⟩ i hi
    obtain ⟨outputs, houtputs, hgoes, -⟩ := (hplan.value_run_eq_ok_iff hvisit hproposes).mp hresult
    have hscenario := List.getElem?_eq_getElem hi
    obtain ⟨output, houtput, hrehearsed⟩ := exists_of_forall₂ houtputs hscenario
    have hid := id_of_rehearsed hparsed hscenario hrehearsed
    have hsole := (fatalError?_alone_iff hid).mp (hgoes i output houtput)
    exact ⟨_, (value_run_alone_eq_ok_iff hplan hvisit (halone i _ hscenario)).mpr
      ⟨output, hrehearsed, hsole, rfl⟩⟩
  · intro hall
    obtain ⟨outputs, houtputs⟩ : ∃ outputs, List.Forall₂ (fun scenario output =>
        IsRehearsed model fresh objective.url scenario output ∧
          fatalError? plan 1 0 (output.withId (idAt occasion.runId 0)) = none)
        scenarios outputs := by
      apply exists_forall₂
      intro scenario hmem
      obtain ⟨i, hscenario⟩ := List.mem_iff_getElem?.mp hmem
      obtain ⟨single, hsingle⟩ := hall i (List.getElem?_eq_some_iff.mp hscenario).1
      obtain ⟨output, houtput, hsole, -⟩ :=
        (value_run_alone_eq_ok_iff hplan hvisit (halone i scenario hscenario)).mp hsingle
      exact ⟨output, houtput, hsole⟩
    refine ⟨_, (hplan.value_run_eq_ok_iff hvisit hproposes).mpr
      ⟨outputs, houtputs.imp fun _ _ h => h.1, ?_, rfl⟩⟩
    intro i output houtput
    obtain ⟨scenario, hscenario, hrehearsed, hsole⟩ := exists_of_forall₂ houtputs.flip houtput
    exact (fatalError?_alone_iff (id_of_rehearsed hparsed hscenario hrehearsed)).mpr hsole

theorem agreesAt_of_run {result single : Result} {i : Nat} (hi : i < scenarios.length)
    (hresult : (run plan occasion objective s).value = .ok (.ok result))
    (hsingle : (run { plan with client? := clients i } occasion objective (starts i)).value =
      .ok (.ok single)) :
    result.AgreesAt occasion.runId i single := by
  obtain ⟨reply, hparsed⟩ := hproposes.exists_reply
  obtain ⟨outputs, houtputs, hgoes, rfl⟩ := (hplan.value_run_eq_ok_iff hvisit hproposes).mp hresult
  have hscenario := List.getElem?_eq_getElem hi
  obtain ⟨output, hrehearsed, hsole, rfl⟩ :=
    (value_run_alone_eq_ok_iff hplan hvisit (halone i _ hscenario)).mp hsingle
  obtain ⟨found, houtput, hfound⟩ := exists_of_forall₂ houtputs hscenario
  obtain rfl := hfound.unique hrehearsed
  have hids : (outputs.map (·.scenario.id)).Nodup := by
    rw [map_id_of_rehearsed houtputs]
    exact Reply.nodup_id hparsed
  exact agreesAt_rehearsedResult (clients i) hids houtput
    (id_of_rehearsed hparsed hscenario hfound) hgoes hsole

end Alone

/-- Scenarios of a run on pages that are all alike do not influence each other.  The run
has a result if, and only if, a run for each of its scenarios alone has one; and then both
results agree on that scenario.  Where the pages are not interrupted, do not fail to
close, and no pause is too long, only a scenario that makes no name keeps the run from
having a result. -/
theorem run_independent (hplan : plan.IsSteady I model fresh)
    (hvisit : (model.visit objective.url fresh).value = .ok ())
    (hproposes : plan.Proposes I occasion objective s scenarios)
    (halone : ∀ (i : Nat) scenario, scenarios[i]? = some scenario →
      ({ plan with client? := clients i } : Plan σ η).Proposes I occasion objective (starts i)
        [scenario.withId (idAt occasion.runId 0)]) :
    ((∃ result, (run plan occasion objective s).value = .ok (.ok result)) ↔
      ∀ i < scenarios.length, ∃ single,
        (run { plan with client? := clients i } occasion objective (starts i)).value =
          .ok (.ok single)) ∧
    (∀ result single, ∀ i < scenarios.length,
      (run plan occasion objective s).value = .ok (.ok result) →
      (run { plan with client? := clients i } occasion objective (starts i)).value =
        .ok (.ok single) →
      result.AgreesAt occasion.runId i single) ∧
    ∀ J : ω → Prop, model.CalmIn J → J fresh → (∀ w, J w → (model.close w).value = .ok ()) →
      (∀ scenario ∈ scenarios, ∀ step ∈ scenario.steps, Suite.excessDigits? step = none) →
      ((∃ result, (run plan occasion objective s).value = .ok (.ok result)) ↔
        plan.Contains scenarios) := by
  refine ⟨exists_result_iff_forall_alone hplan hvisit hproposes halone, ?_, ?_⟩
  · intro result single i hi hresult hsingle
    exact agreesAt_of_run hplan hvisit hproposes halone hi hresult hsingle
  · intro J hmodel hfresh hclose hdigits
    exact exists_result_iff_contains hplan hvisit hproposes hmodel hfresh hclose hdigits

end Runs

/-- A plan for a reply, whose pages all have the script of the dialog. -/
def dialogPlan (reply : Text) : Plan Scripted.Stage Scripted.Element where
  client? := some fun _ => pure (some reply)
  model := "model"
  openPage := Scripted.Stage.openPage
  resolver := Validation.standardResolver
  isCancelled := Scripted.Stage.cancelled
  options := .standard

theorem dialogPlan_isSteady (reply : Text) :
    (dialogPlan reply).IsSteady (Scripted.Stage.Repeats Validation.dialogScript)
      Scripted.Script.page Validation.dialogScript where
  resolver := rfl
  notCancelled _ hstage := hstage.2
  meanwhile _ hstage := hstage
  opens := Validation.opensLike_dialogScript

def dialogStart : Scripted.Stage := .start [Validation.dialogScript] false

theorem dialogPlan_proposes {reply : Text} {scenarios : List Scenario}
    (hreply : Text.isBlankText reply = false)
    (hparsed : Reply.scenarios Datum.Json.maxDepth reply rehearsal.runId = .ok scenarios) :
    (dialogPlan reply).Proposes (Scripted.Stage.Repeats Validation.dialogScript) rehearsal
      anyObjective dialogStart scenarios := by
  refine ⟨⟨rfl, rfl⟩, reply, dialogStart, ?_, ⟨rfl, rfl⟩, hparsed⟩
  refine Done.result_eq_ok_iff.mpr ⟨?_, rfl⟩
  change Except.ok (if Text.isBlankText reply then _ else _) = _
  rw [hreply]
  rfl

/-- A scenario as a model proposes it, which opens the dialog and writes into it. -/
def dialogItem : Text :=
  "\x7b\"name\":\"a\",\"steps\":[\x7b\"action\":\"click\",\"target\":\"#open\"\x7d," ++
    "\x7b\"action\":\"type\",\"target\":\"#dialog\",\"data\":\"text\"\x7d]\x7d"

/-- A scenario that finds no dialog, and has nothing to fill in. -/
def hastyItem : Text :=
  "\x7b\"name\":\"b\",\"steps\":[\x7b\"action\":\"fill\",\"target\":\"#dialog\"\x7d]\x7d"

def bothItems : Text := "[" ++ dialogItem ++ "," ++ hastyItem ++ "]"

/-- The dialog that the first scenario opens is not there for the second one. -/
theorem run_bothItems_independent :
    ∃ result first second,
      (run (dialogPlan bothItems) rehearsal anyObjective dialogStart).value = .ok (.ok result) ∧
      (run (dialogPlan dialogItem) rehearsal anyObjective dialogStart).value = .ok (.ok first) ∧
      (run (dialogPlan hastyItem) rehearsal anyObjective dialogStart).value = .ok (.ok second) ∧
      result.AgreesAt rehearsal.runId 0 first ∧ result.AgreesAt rehearsal.runId 1 second ∧
      first.errors.map (·.kind) = [] ∧
      second.errors.map (·.kind) = ["StepResolutionWarning", "CompilationInputError"] := by
  have hfirst : ((run (dialogPlan dialogItem) rehearsal anyObjective
      dialogStart).value.toOption.bind Except.toOption).map (·.errors.map (·.kind)) = some [] := by
    decide +kernel
  have hsecond : ((run (dialogPlan hastyItem) rehearsal anyObjective
      dialogStart).value.toOption.bind Except.toOption).map (·.errors.map (·.kind)) =
        some [("StepResolutionWarning" : Text), ("CompilationInputError" : Text)] := by
    decide +kernel
  obtain ⟨first, hfirst, hnone⟩ := exists_result_of_map_eq_some hfirst
  obtain ⟨second, hsecond, hkinds⟩ := exists_result_of_map_eq_some hsecond
  let clients : Nat → Option (ModelClient Scripted.Stage) := fun i =>
    if i = 0 then (dialogPlan dialogItem).client? else (dialogPlan hastyItem).client?
  let drafts : List Scenario := [⟨"run-1", "a", none, Validation.dialogScenario.steps, []⟩,
    ⟨"run-2", "b", none, [⟨.fill, "#dialog", none, ""⟩], []⟩]
  have hproposes : (dialogPlan bothItems).Proposes
      (Scripted.Stage.Repeats Validation.dialogScript) rehearsal anyObjective dialogStart drafts :=
    dialogPlan_proposes (by decide +kernel) (by decide +kernel)
  have halone : ∀ (i : Nat) scenario, drafts[i]? = some scenario →
      ({ dialogPlan bothItems with client? := clients i } : Plan _ _).Proposes
        (Scripted.Stage.Repeats Validation.dialogScript) rehearsal anyObjective dialogStart
        [scenario.withId (idAt rehearsal.runId 0)] := by
    intro i scenario hscenario
    match i, hscenario with
    | 0, hscenario =>
        obtain rfl := Option.some.inj hscenario
        change (dialogPlan dialogItem).Proposes _ _ _ _ _
        exact dialogPlan_proposes (by decide +kernel) (by decide +kernel)
    | 1, hscenario =>
        obtain rfl := Option.some.inj hscenario
        change (dialogPlan hastyItem).Proposes _ _ _ _ _
        exact dialogPlan_proposes (by decide +kernel) (by decide +kernel)
  obtain ⟨hexists, hagrees, -⟩ :=
    run_independent (dialogPlan_isSteady bothItems) rfl hproposes halone
  have hsingles : ∀ i < drafts.length, ∃ single,
      (run { dialogPlan bothItems with client? := clients i } rehearsal anyObjective
        dialogStart).value = .ok (.ok single) := by
    intro i hi
    match i, hi with
    | 0, _ => exact ⟨first, hfirst⟩
    | 1, _ => exact ⟨second, hsecond⟩
  obtain ⟨result, hresult⟩ := hexists.mpr hsingles
  exact ⟨result, first, second, hresult, hfirst, hsecond,
    hagrees result first 0 (by decide) hresult hfirst,
    hagrees result second 1 (by decide) hresult hsecond, hnone, hkinds⟩

def plainReply : Text := "\x7b\"name\":\"a\",\"steps\":[]\x7d"

def namelessReply : Text :=
  "[\x7b\"name\":\"a\",\"steps\":[]\x7d,\x7b\"name\":\"\\ud800\",\"steps\":[]\x7d]"

theorem emptyPage_mirrors : emptyPage.Mirrors (fun _ _ => True) (fun _ _ => True) emptyPage where
  find _ _ _ _ := ⟨rfl, trivial⟩
  attributeOf _ _ _ _ _ := ⟨rfl, trivial⟩
  textOf _ _ _ _ := ⟨rfl, trivial⟩
  visit _ _ _ _ := ⟨rfl, trivial⟩
  perform _ _ _ _ := ⟨rfl, trivial⟩
  close _ _ _ := ⟨rfl, trivial⟩

/-- A scenario that has a result alone has none beside one whose name is a surrogate. -/
theorem run_surrogateBeside_influences :
    (emptyPagesPlan namelessReply).IsSteady (fun _ => True) emptyPage 0 ∧
      (emptyPage.visit anyObjective.url 0).value = .ok () ∧
      (∀ w, (emptyPage.close w).value = .ok ()) ∧
      Reply.scenarios Datum.Json.maxDepth namelessReply rehearsal.runId =
        .ok [⟨"run-1", "a", none, [], []⟩, ⟨"run-2", [.surrogate 0], none, [], []⟩] ∧
      Reply.scenarios Datum.Json.maxDepth plainReply rehearsal.runId =
        .ok [⟨"run-1", "a", none, [], []⟩] ∧
      (∃ single, (run (emptyPagesPlan plainReply) rehearsal anyObjective 0).value =
        .ok (.ok single)) ∧
      ∃ found, (run (emptyPagesPlan namelessReply) rehearsal anyObjective 0).value =
        .ok (.error (.compilation (.noName found))) := by
  have hsteady : (emptyPagesPlan namelessReply).IsSteady (fun _ => True) emptyPage 0 := by
    refine ⟨rfl, fun _ _ => rfl, fun _ _ => trivial, ?_⟩
    intro s _
    exact ⟨emptyPage, fun _ _ => True, rfl, trivial, emptyPage_mirrors⟩
  refine ⟨hsteady, rfl, fun _ => rfl, by decide +kernel, by decide +kernel, ?_,
    ⟨.surrogate 0, 0, 0⟩, by decide +kernel⟩
  have hcomputed : ((run (emptyPagesPlan plainReply) rehearsal anyObjective
      0).value.toOption.bind Except.toOption).map (·.errors) = some [] := by
    decide +kernel
  obtain ⟨single, hsingle, -⟩ := exists_result_of_map_eq_some hcomputed
  exact ⟨single, hsingle⟩

end PageScript.Run
