import PageScript.Proofs.MirroredPages
import PageScript.Proofs.SortedScenarios

namespace PageScript.Run

open Routine

variable {σ ω η : Type} {I : σ → Prop} {plan : Plan σ η} {model : Page ω η} {fresh : ω}
  {occasion : Occasion} {objective : Objective} {url runId : Text} {s t : σ}
  {scenarios : List Scenario} {output : Output} {outputs : List Output}

/-- In the states of `I` nobody cancels the run, whatever others do meanwhile, and each
page that is opened is like the model in the state `fresh`. -/
structure Plan.IsSteady (I : σ → Prop) (plan : Plan σ η) (model : Page ω η) (fresh : ω) : Prop where
  resolver : plan.resolver = Validation.standardResolver
  notCancelled : ∀ s, I s → plan.isCancelled s = false
  meanwhile : ∀ s, I s → I (plan.meanwhile s)
  opens : OpensLike I plan.openPage model fresh

/-- The model that a run asks proposes the scenarios, in a state of `I` and leading to one. -/
def Plan.Proposes (I : σ → Prop) (plan : Plan σ η) (occasion : Occasion) (objective : Objective)
    (s : σ) (scenarios : List Scenario) : Prop :=
  I s ∧ ∃ reply start,
    (Generation.generate plan.client? plan.model objective (plan.meanwhile s)).result =
      .ok (.ok reply, start) ∧
    I start ∧ Reply.scenarios plan.replyDepth reply occasion.runId = .ok scenarios

/-- The output is what validation makes of the scenario on the model. -/
def IsRehearsed (model : Page ω η) (fresh : ω) (url : Text) (scenario : Scenario)
    (output : Output) : Prop :=
  Validation.rehearsed model fresh scenario url = .ok (.ok ⟨output.scenario, output.outcomes⟩)

theorem isRehearsed_iff {scenario : Scenario} {output : Output} :
    IsRehearsed model fresh url scenario output ↔
      (Validation.validateOn Validation.standardResolver model scenario url fresh).value =
          .ok (.ok output.outcomes) ∧
        (model.close
          (Validation.validateOn Validation.standardResolver model scenario url fresh).state).value =
            .ok () ∧
        output.scenario = Validation.withFinalTargets scenario output.outcomes := by
  unfold IsRehearsed Validation.rehearsed
  rw [Validation.value_validate_eq_report_iff]
  constructor
  · rintro ⟨page, outcomes, hopened, hon, hclosed, hreport⟩
    obtain rfl : model = page := Except.ok.inj hopened
    obtain ⟨hscenario, rfl⟩ := Report.mk.inj hreport
    exact ⟨hon, hclosed, hscenario⟩
  · rintro ⟨hon, hclosed, hscenario⟩
    exact ⟨model, output.outcomes, rfl, hon, hclosed, by rw [hscenario]⟩

theorem IsRehearsed.unique {scenario : Scenario} {output other : Output}
    (h : IsRehearsed model fresh url scenario output)
    (hother : IsRehearsed model fresh url scenario other) : output = other := by
  have hsame := Except.ok.inj (Except.ok.inj (h.symm.trans hother))
  obtain ⟨hscenario, houtcomes⟩ := Report.mk.inj hsame
  cases output
  cases other
  exact congrArg₂ Output.mk hscenario houtcomes

theorem rehearsed_ne_navigationError (hvisit : (model.visit url fresh).value = .ok ())
    (scenario : Scenario) (error : Validation.NavigationError) :
    Validation.rehearsed model fresh scenario url ≠ .ok (.error error) := by
  intro h
  have hopened : (openingOf model fresh fresh).value = .ok model := rfl
  rw [Validation.rehearsed, (Validation.validate_of_opened hopened).1] at h
  split at h
  · have hvisited := Done.result_eq_ok_iff.mpr ⟨hvisit, rfl⟩
    have hon : (Validation.validateOn Validation.standardResolver model scenario url
        fresh).result = _ := Validation.result_validateOn hvisited
    cases hrun : Validation.Progress.run model (model.visit url fresh).state scenario.steps with
    | error stopped =>
        rw [hrun] at hon
        have hvalue := (Done.result_eq_error_iff.mp hon).1
        change Except.map _ (Validation.validateOn _ _ _ _ fresh).value = _ at h
        rw [hvalue] at h
        exact nomatch h
    | ok progress =>
        rw [hrun] at hon
        have hvalue := (Done.result_eq_ok_iff.mp hon).1
        change Except.map _ (Validation.validateOn _ _ _ _ fresh).value = _ at h
        rw [hvalue] at h
        exact nomatch Except.ok.inj h
  · exact nomatch h

/-- The result of a run that ends with the outputs, and that nothing stops. -/
def rehearsedResult (plan : Plan σ η) (occasion : Occasion) (outputs : List Output) : Result :=
  resultOf plan occasion ⟨outputs, outputs.filterMap Output.unresolvedEntry?, .complete⟩
    (outputs.zipIdx.filterMap fun (output, i) =>
      compilation? plan occasion.runId outputs.length i output)
    (outputs.zipIdx.filterMap fun (output, i) => inputError? plan outputs.length i output)

namespace Plan.IsSteady

theorem validateOne (hplan : plan.IsSteady I model fresh) (url : Text) (scenario : Scenario)
    (hs : I s) :
    (Run.validateOne plan url scenario s).value =
        Validation.rehearsed model fresh scenario url ∧
      I (Run.validateOne plan url scenario s).state := by
  rw [Run.validateOne, hplan.resolver]
  exact Validation.validate_of_opensLike hplan.opens hs scenario url

/-- Validation that has an end has made of each scenario what it makes of it on the model. -/
theorem exists_rehearsed_of_validateAll (hplan : plan.IsSteady I model fresh)
    (hvisit : (model.visit url fresh).value = .ok ()) (hs : I s) {validated : Validated}
    (h : (validateAll plan runId url scenarios s).result = .ok (validated, t)) :
    ∃ outputs, List.Forall₂ (IsRehearsed model fresh url) scenarios outputs := by
  induction scenarios generalizing s validated with
  | nil => exact ⟨[], .nil⟩
  | cons scenario rest ih =>
      have hmeanwhile := hplan.meanwhile s hs
      obtain ⟨hone, hkept⟩ := hplan.validateOne url scenario hmeanwhile
      rcases validateAll_cons_cases h with
        ⟨hcancelled, -⟩ | ⟨-, ⟨error, hvalue, -⟩ | ⟨report, later, hvalue, hlater, -⟩⟩
      · rw [hplan.notCancelled _ hmeanwhile] at hcancelled
        exact nomatch hcancelled
      · exact absurd (hone.symm.trans hvalue) (rehearsed_ne_navigationError hvisit scenario error)
      · obtain ⟨outputs, hrest⟩ := ih hkept hlater
        exact ⟨⟨report.scenario, report.outcomes⟩ :: outputs, .cons (hone.symm.trans hvalue) hrest⟩

theorem result_validateAll (hplan : plan.IsSteady I model fresh) (runId : Text) (hs : I s)
    (h : List.Forall₂ (IsRehearsed model fresh url) scenarios outputs) :
    ∃ t, I t ∧ (validateAll plan runId url scenarios s).result =
      .ok (⟨outputs, outputs.filterMap Output.unresolvedEntry?, .complete⟩, t) := by
  induction h generalizing s with
  | nil => exact ⟨s, hs, rfl⟩
  | @cons scenario output rest others hfirst hrest ih =>
      have hmeanwhile := hplan.meanwhile s hs
      obtain ⟨hvalue, hkept⟩ := hplan.validateOne url scenario hmeanwhile
      replace hvalue := hvalue.trans hfirst
      obtain ⟨t, ht, hlater⟩ := ih hkept
      refine ⟨t, ht, ?_⟩
      have hof : output.IsOf scenario := isOf_of_validateOne hplan.resolver hvalue
      have hentry := hof.unresolved?_eq
      rw [hof.id_eq] at hentry
      rw [result_validateAll_step, hplan.notCancelled _ hmeanwhile, if_neg (by decide),
        Done.result_eq_ok_iff.mpr ⟨hvalue, rfl⟩]
      change Except.map _ (validateAll plan runId url rest _).result = _
      rw [hlater, List.filterMap_cons, ← hentry]
      cases unresolved? scenario.id output.outcomes <;> rfl

theorem fatalError?_of_compileAll (hplan : plan.IsSteady I model fresh) {total index : Nat}
    (hs : I s) {found : List Compilation × List StageError}
    (h : (compileAll plan runId total index outputs s).result = .ok (.ok found, t)) :
    ∀ (i : Nat) output, outputs[i]? = some output →
      fatalError? plan total (index + i) output = none := by
  induction outputs generalizing index s t found with
  | nil => exact fun i output houtput => nomatch houtput
  | cons first rest ih =>
      have hmeanwhile := hplan.meanwhile s hs
      rw [result_compileAll_step, hplan.notCancelled _ hmeanwhile, if_neg (by decide)] at h
      cases hfatal : fatalError? plan total index first with
      | some error =>
          rw [hfatal] at h
          exact nomatch (Prod.mk.inj (Except.ok.inj h)).1
      | none =>
          rw [hfatal] at h
          cases hrest : (compileAll plan runId total (index + 1) rest (plan.meanwhile s)).result with
          | error stopped =>
              rw [hrest] at h
              exact nomatch h
          | ok ended =>
              obtain ⟨error | later, after⟩ := ended
              · rw [hrest] at h
                exact nomatch (Prod.mk.inj (Except.ok.inj h)).1
              · intro i output houtput
                cases i with
                | zero =>
                    obtain rfl := Option.some.inj houtput
                    exact hfatal
                | succ i =>
                    have hlater := ih hmeanwhile hrest i output houtput
                    rwa [Nat.add_right_comm] at hlater

theorem result_compileAll (hplan : plan.IsSteady I model fresh) (runId : Text) {total index : Nat}
    (hs : I s) (h : ∀ (i : Nat) output, outputs[i]? = some output →
      fatalError? plan total (index + i) output = none) :
    ∃ t, (compileAll plan runId total index outputs s).result =
      .ok (.ok ((outputs.zipIdx index).filterMap (fun (output, i) =>
          compilation? plan runId total i output),
        (outputs.zipIdx index).filterMap fun (output, i) => inputError? plan total i output), t) := by
  induction outputs generalizing index s with
  | nil => exact ⟨s, rfl⟩
  | cons first rest ih =>
      have hmeanwhile := hplan.meanwhile s hs
      have hfirst : fatalError? plan total index first = none := h 0 first rfl
      have hrest : ∀ (i : Nat) output, rest[i]? = some output →
          fatalError? plan total (index + 1 + i) output = none := by
        intro i output houtput
        rw [Nat.add_right_comm]
        exact h (i + 1) output houtput
      obtain ⟨t, hlater⟩ := ih hmeanwhile hrest
      refine ⟨t, ?_⟩
      rw [result_compileAll_step, hplan.notCancelled _ hmeanwhile, if_neg (by decide), hfirst]
      dsimp only
      rw [hlater, List.zipIdx_cons, List.filterMap_cons, List.filterMap_cons]
      cases compilation? plan runId total index first <;>
        cases inputError? plan total index first <;> rfl

theorem value_run (hplan : plan.IsSteady I model fresh)
    (hproposes : plan.Proposes I occasion objective s scenarios)
    (houtputs : List.Forall₂ (IsRehearsed model fresh objective.url) scenarios outputs)
    (hgoes : ∀ (i : Nat) output, outputs[i]? = some output →
      fatalError? plan outputs.length i output = none) :
    (run plan occasion objective s).value = .ok (.ok (rehearsedResult plan occasion outputs)) := by
  obtain ⟨hs, reply, start, hreply, hstart, hparsed⟩ := hproposes
  have hpoll : (plan.poll s).result = .ok (false, plan.meanwhile s) := by
    rw [result_poll, hplan.notCancelled _ (hplan.meanwhile s hs)]
  obtain ⟨after, hafter, hvalidated⟩ := hplan.result_validateAll occasion.runId hstart houtputs
  have hnone : ∀ (i : Nat) output, outputs[i]? = some output →
      fatalError? plan outputs.length (0 + i) output = none := by
    intro i output houtput
    rw [Nat.zero_add]
    exact hgoes i output houtput
  obtain ⟨last, hcompiled⟩ := hplan.result_compileAll occasion.runId hafter hnone
  have hresult := result_run_of_compiled hpoll hreply hparsed hvalidated hcompiled
  exact (Done.result_eq_ok_iff.mp hresult).1

/-- What a run on pages that are all alike has for a result, and when it has one. -/
theorem value_run_eq_ok_iff (hplan : plan.IsSteady I model fresh)
    (hvisit : (model.visit objective.url fresh).value = .ok ())
    (hproposes : plan.Proposes I occasion objective s scenarios) {result : Result} :
    (run plan occasion objective s).value = .ok (.ok result) ↔
      ∃ outputs, List.Forall₂ (IsRehearsed model fresh objective.url) scenarios outputs ∧
        (∀ (i : Nat) output, outputs[i]? = some output →
          fatalError? plan outputs.length i output = none) ∧
        result = rehearsedResult plan occasion outputs := by
  constructor
  · intro h
    obtain ⟨hs, reply, start, hreply, hstart, hparsed⟩ := hproposes
    obtain ⟨found, asked, validated, middle, compilations, errors, last, hfound, hvalidated,
      hcompiled, rfl⟩ := exists_of_run_eq_ok h
    have hgenerated := (result_generate hreply hparsed).symm.trans hfound
    obtain ⟨hsame, rfl⟩ := Prod.mk.inj (Except.ok.inj hgenerated)
    obtain rfl := Except.ok.inj hsame
    obtain ⟨outputs, houtputs⟩ :=
      hplan.exists_rehearsed_of_validateAll hvisit hstart hvalidated
    obtain ⟨after, hafter, hended⟩ := hplan.result_validateAll occasion.runId hstart houtputs
    obtain ⟨rfl, rfl⟩ := Prod.mk.inj (Except.ok.inj (hended.symm.trans hvalidated))
    have hgoes : ∀ (i : Nat) output, outputs[i]? = some output →
        fatalError? plan outputs.length i output = none := by
      intro i output houtput
      have hnone := hplan.fatalError?_of_compileAll hafter hcompiled i output houtput
      rwa [Nat.zero_add] at hnone
    refine ⟨outputs, houtputs, hgoes, ?_⟩
    have hvalue := hplan.value_run ⟨hs, reply, start, hreply, hstart, hparsed⟩ houtputs hgoes
    exact Except.ok.inj (Except.ok.inj (h.symm.trans hvalue))
  · rintro ⟨outputs, houtputs, hgoes, rfl⟩
    exact hplan.value_run hproposes houtputs hgoes

end Plan.IsSteady

/-- The page object that is written for a scenario, if there is one. -/
def pageObjectsOf (options : Suite.Options) (scenario : Scenario) : List Suite.SourceFile :=
  ((if options.pageObjects then Suite.PageObject.ofScenario? scenario else none).map
    (Suite.SourceFile.ofPageObject options.style)).toList

namespace Output

/-- The entry for an output whose scenario lacks data. -/
def rejection? (output : Output) : Option StageError :=
  match output.scenario.stepsLackingData with
  | [] => none
  | places =>
      some ⟨"compilation", "CompilationInputError",
        (Suite.CompileError.lacksData output.scenario.name places).message,
        some output.scenario.id⟩

/-- The page objects of an output that is compiled, under the id of its scenario. -/
def pageObjects? (options : Suite.Options) (output : Output) :
    Option (List Text × List Suite.SourceFile) :=
  match output.scenario.stepsLackingData with
  | [] => some ([output.scenario.id], pageObjectsOf options output.scenario)
  | _ => none

end Output

theorem inputError?_eq_rejection? (plan : Plan σ η) (total index : Nat) (output : Output) :
    inputError? plan total index output = output.rejection? := by
  unfold inputError? Output.rejection? Suite.compile
  rcases Suite.compileError?_eq_cases output.scenario (optionsFor plan.options index total) with
    ⟨hlacking, herror⟩ | ⟨hcomplete, -, found, herror⟩ | ⟨hcomplete, -, herror⟩
  · rw [herror]
    cases hplaces : output.scenario.stepsLackingData with
    | nil => exact absurd hplaces hlacking
    | cons place places => rfl
  · rw [herror, hcomplete]
  · rw [herror, hcomplete]
    cases output.scenario.steps.findSome? Suite.excessDigits? <;> rfl

theorem compilation?_map_pageObjects {total index : Nat}
    (hgoes : fatalError? plan total index output = none) :
    (compilation? plan runId total index output).map
        (fun compilation => (compilation.outline.caseIds, compilation.artifact.pageObjects)) =
      output.pageObjects? plan.options := by
  have hoptions : ∀ scenario, pageObjectsOf (optionsFor plan.options index total) scenario =
      pageObjectsOf plan.options scenario := by
    intro scenario
    obtain ⟨fileName?, hsame⟩ := exists_optionsFor_eq plan.options index total
    rw [hsame]
    rfl
  unfold compilation? Output.pageObjects? Suite.compile
  rcases Suite.compileError?_eq_cases output.scenario (optionsFor plan.options index total) with
    ⟨hlacking, herror⟩ | ⟨hcomplete, hnames, found, herror⟩ | ⟨hcomplete, -, herror⟩
  · rw [herror]
    cases hplaces : output.scenario.stepsLackingData with
    | nil => exact absurd hplaces hlacking
    | cons place places => rfl
  · rcases fatalError?_eq_none_iff.mp hgoes with hlacking | ⟨hmade, -⟩
    · exact absurd hcomplete hlacking
    · exact absurd hmade hnames
  · rcases fatalError?_eq_none_iff.mp hgoes with hlacking | ⟨-, hshort⟩
    · exact absurd hcomplete hlacking
    · rw [herror, hshort, hcomplete, ← hoptions]
      rfl

theorem map_id_of_rehearsed
    (h : List.Forall₂ (IsRehearsed model fresh url) scenarios outputs) :
    outputs.map (·.scenario.id) = scenarios.map (·.id) := by
  induction h with
  | nil => rfl
  | cons hfirst hrest ih =>
      obtain ⟨-, -, hscenario⟩ := isRehearsed_iff.mp hfirst
      rw [List.map_cons, List.map_cons, ih, hscenario]
      rfl

theorem rehearsedResult_pageObjects (occasion : Occasion)
    (hgoes : ∀ (i : Nat) output, outputs[i]? = some output →
      fatalError? plan outputs.length i output = none) :
    (rehearsedResult plan occasion outputs).compilations.map (fun compilation =>
        (compilation.outline.caseIds, compilation.artifact.pageObjects)) =
      outputs.filterMap (Output.pageObjects? plan.options) := by
  rw [← filterMap_zipIdx_fst]
  change List.map _ (outputs.zipIdx.filterMap _) = _
  rw [List.map_filterMap]
  apply List.filterMap_congr
  rintro ⟨output, i⟩ hplace
  exact compilation?_map_pageObjects (hgoes i output (List.mk_mem_zipIdx_iff_getElem?.mp hplace))

theorem rehearsedResult_errors (plan : Plan σ η) (occasion : Occasion) (outputs : List Output) :
    (rehearsedResult plan occasion outputs).errors =
      outputs.filterMap Output.unresolvedEntry? ++ outputs.filterMap Output.rejection? := by
  rw [← filterMap_zipIdx_fst outputs Output.rejection?]
  change _ ++ _ = _ ++ _
  simp only [inputError?_eq_rejection?]

theorem rehearsedResult_pageObjects_at (occasion : Occasion)
    (hids : (outputs.map (·.scenario.id)).Nodup) (houtput : output ∈ outputs)
    (hgoes : ∀ (i : Nat) output, outputs[i]? = some output →
      fatalError? plan outputs.length i output = none) :
    ((rehearsedResult plan occasion outputs).compilations.filter fun compilation =>
        compilation.outline.caseIds == [output.scenario.id]).map (·.artifact.pageObjects) =
      (output.pageObjects? plan.options).toList.map Prod.snd := by
  have hcases : (outputs.map fun output => [output.scenario.id]).Nodup :=
    nodup_map_map hids List.singleton_injective
  have hcase : ∀ (other : Output) found, other.pageObjects? plan.options = some found →
      found.1 = [other.scenario.id] := by
    intro other found hfound
    unfold Output.pageObjects? at hfound
    split at hfound
    · obtain rfl := Option.some.inj hfound
      rfl
    · exact nomatch hfound
  have hpicked := filter_filterMap_key hcases hcase houtput
  rw [← rehearsedResult_pageObjects occasion hgoes, List.filter_map] at hpicked
  rw [← hpicked, List.map_map]
  rfl

theorem rehearsedResult_errors_at (plan : Plan σ η) (occasion : Occasion)
    (hids : (outputs.map (·.scenario.id)).Nodup) (houtput : output ∈ outputs) :
    (rehearsedResult plan occasion outputs).errors.filter
        (fun error => error.scenarioId? == some output.scenario.id) =
      output.unresolvedEntry?.toList ++ output.rejection?.toList := by
  have hkeys : (outputs.map fun output => some output.scenario.id).Nodup :=
    nodup_map_map hids fun _ _ => Option.some.inj
  have hrejection : ∀ (other : Output) error, other.rejection? = some error →
      error.scenarioId? = some other.scenario.id := by
    intro other error herror
    unfold Output.rejection? at herror
    split at herror
    · exact nomatch herror
    · obtain rfl := Option.some.inj herror
      rfl
  have hunresolved : ∀ (other : Output) error, other.unresolvedEntry? = some error →
      error.scenarioId? = some other.scenario.id :=
    fun other error herror => (Output.unresolvedEntry?_eq_some herror).2
  rw [rehearsedResult_errors, List.filter_append, filter_filterMap_key hkeys hunresolved houtput,
    filter_filterMap_key hkeys hrejection houtput]

end PageScript.Run
