import PageScript.Proofs.CompiledScenarios
import PageScript.Proofs.RecordedRun

namespace PageScript

theorem Reply.scenariosFrom_id {runId : Text} {n : Nat} {items : List Datum}
    {scenarios : List Scenario} (h : scenariosFrom runId n items = .ok scenarios) {i : Nat}
    {scenario : Scenario} (hscenario : scenarios[i]? = some scenario) :
    scenario.id = runId ++ "-" ++ toString (n + i) := by
  induction items generalizing n i scenarios with
  | nil =>
      obtain rfl := Except.ok.inj h
      exact absurd hscenario (by simp)
  | cons item rest ih =>
      rw [scenariosFrom] at h
      cases hitem : Draft.read item with
      | invalid issues =>
          rw [hitem] at h
          exact absurd h (by simp)
      | valid draft =>
          rw [hitem] at h
          obtain ⟨more, hmore, hdone⟩ := bind_eq_ok h
          obtain rfl := Except.ok.inj hdone
          cases i with
          | zero =>
              obtain rfl := Option.some.inj hscenario
              rfl
          | succ i =>
              have hid := ih hmore hscenario
              rwa [Nat.add_right_comm] at hid

theorem Reply.scenarios_id {depth : Nat} {reply runId : Text} {scenarios : List Scenario}
    (h : Reply.scenarios depth reply runId = .ok scenarios) {i : Nat} {scenario : Scenario}
    (hscenario : scenarios[i]? = some scenario) :
    scenario.id = runId ++ "-" ++ toString (i + 1) := by
  obtain ⟨data, -, hdata⟩ := bind_eq_ok h
  obtain ⟨found, -, hfound⟩ := bind_eq_ok hdata
  rw [scenariosFrom_id hfound hscenario, Nat.add_comm]

namespace Run

open Routine
open Scripted (Event)

variable {σ η : Type} {I : σ → Prop} {plan : Plan σ η} {occasion : Occasion}
  {objective : Objective} {reply : Text} {scenarios : List Scenario} {s start : σ}

theorem result_generate
    (hreply : (Generation.generate plan.client? plan.model objective s).result =
      .ok (.ok reply, start))
    (hparsed : Reply.scenarios plan.replyDepth reply occasion.runId = .ok scenarios) :
    (generate plan occasion.runId objective s).result = .ok (.ok scenarios, start) := by
  unfold generate
  refine (result_bind_of_ok (result_log _ _ s)).trans ?_
  refine (result_bind_of_ok hreply).trans ?_
  dsimp only
  rw [hparsed]
  rfl

/-- Whether none of the scenarios keeps the others from being compiled. -/
def Plan.Contains (plan : Plan σ η) (scenarios : List Scenario) : Prop :=
  ∀ (i : Nat) scenario, scenarios[i]? = some scenario →
    Suite.IsContained scenario (optionsFor plan.options i scenarios.length)

section Validated

variable {url : Text} {k : Nat} {validated : Validated} {after : σ}

/-- Each output is the draft or the report of the scenario at its place, which have
the same names and lack the same data. -/
theorem ValidatesTo.output_of_scenario (h : ValidatesTo plan url start scenarios k validated after)
    {i : Nat} {scenario : Scenario} (hscenario : scenarios[i]? = some scenario) :
    ∃ output, validated.outputs[i]? = some output ∧ output.scenario.id = scenario.id ∧
      (∀ options, Suite.IsContained output.scenario options ↔ Suite.IsContained scenario options) ∧
      ((∀ step ∈ scenario.steps, Suite.excessDigits? step = none) →
        ∀ step ∈ output.scenario.steps, Suite.excessDigits? step = none) := by
  obtain ⟨hbefore, hfrom⟩ := h.output_eq hscenario
  rcases Nat.lt_or_ge i k with hi | hi
  · obtain ⟨report, -, hreport, houtput⟩ := hbefore hi
    refine ⟨_, houtput, ?_, hreport.isContained_iff, hreport.excessDigits?_eq_none⟩
    rw [hreport.scenario_eq]
    rfl
  · exact ⟨_, hfrom hi, rfl, fun _ => Iff.rfl, fun hdigits => hdigits⟩

theorem ValidatesTo.scenario_of_output (h : ValidatesTo plan url start scenarios k validated after)
    {i : Nat} {output : Output} (houtput : validated.outputs[i]? = some output) :
    ∃ scenario, scenarios[i]? = some scenario := by
  have hi := (List.getElem?_eq_some_iff.mp houtput).1
  rw [h.length_eq] at hi
  exact ⟨_, List.getElem?_eq_getElem hi⟩

theorem result_compileValidated (hpoll : (plan.poll after).result = .ok (false, after))
    (h : ValidatesTo plan url start scenarios k validated after) (runId : Text)
    (hdigits : ∀ scenario ∈ scenarios, ∀ step ∈ scenario.steps,
      Suite.excessDigits? step = none) :
    (plan.Contains scenarios ∧ ∃ compilations errors,
      (compileValidated plan runId validated after).result =
        .ok (.ok (compilations, errors), after) ∧
      ∀ error ∈ errors, isInputError error = true) ∨
    ¬ plan.Contains scenarios ∧ ∃ found,
      (compileValidated plan runId validated after).result =
        .ok (.error (.compilation (.noName found)), after) := by
  have houtputs : ∀ output ∈ validated.outputs, ∀ step ∈ output.scenario.steps,
      Suite.excessDigits? step = none := by
    intro output hmem
    obtain ⟨i, hi⟩ := List.mem_iff_getElem?.mp hmem
    obtain ⟨scenario, hscenario⟩ := h.scenario_of_output hi
    obtain ⟨found, hfound, -, -, hkept⟩ := h.output_of_scenario hscenario
    obtain rfl := Option.some.inj (hfound.symm.trans hi)
    exact hkept (hdigits scenario (List.mem_of_getElem? hscenario))
  rw [compileValidated, if_neg h.ending_ne_cancelled, h.length_eq]
  rcases result_compileAll runId scenarios.length 0 validated.outputs hpoll houtputs with
    ⟨hall, hend⟩ | ⟨⟨i, output, houtput, hnot⟩, hend⟩
  · refine Or.inl ⟨?_, hend⟩
    intro i scenario hscenario
    obtain ⟨output, houtput, -, hiff, -⟩ := h.output_of_scenario hscenario
    have hcontained := hall i output houtput
    rw [Nat.zero_add] at hcontained
    exact (hiff _).mp hcontained
  · refine Or.inr ⟨?_, hend⟩
    intro hcontains
    obtain ⟨scenario, hscenario⟩ := h.scenario_of_output houtput
    obtain ⟨found, hfound, -, hiff, -⟩ := h.output_of_scenario hscenario
    obtain rfl := Option.some.inj (hfound.symm.trans houtput)
    rw [Nat.zero_add] at hnot
    exact hnot ((hiff _).mpr (hcontains i scenario hscenario))

end Validated

theorem result_run_of_compiled {asked : σ} (hpoll : (plan.poll s).result = .ok (false, asked))
    (hreply : (Generation.generate plan.client? plan.model objective asked).result =
      .ok (.ok reply, start))
    (hparsed : Reply.scenarios plan.replyDepth reply occasion.runId = .ok scenarios)
    {validated : Validated} {after : σ}
    (hvalidated : (validateAll plan occasion.runId objective.url scenarios start).result =
      .ok (validated, after))
    {compiled : Except Error (List Compilation × List StageError)} {last : σ}
    (hcompiled : (compileValidated plan occasion.runId validated after).result =
      .ok (compiled, last)) :
    (run plan occasion objective s).result =
      .ok (compiled.map fun found => resultOf plan occasion validated found.1 found.2, last) := by
  unfold run
  refine (result_bind_of_ok hpoll).trans ?_
  refine (result_bind_of_ok (result_generate hreply hparsed)).trans ?_
  refine (result_bind_of_ok hvalidated).trans ?_
  refine (result_bind_of_ok hcompiled).trans ?_
  cases compiled <;> rfl

/-- How a run ends that is not cancelled when it starts: with what generation fails
with, or with what is compiled of the scenarios. -/
theorem run_cases {asked t : σ} (hpoll : (plan.poll s).result = .ok (false, asked))
    {ended : Except Error Result} (h : (run plan occasion objective s).result = .ok (ended, t)) :
    (∃ error, (generate plan occasion.runId objective asked).result = .ok (.error error, t) ∧
      ended = .error error) ∨
    ∃ scenarios start validated middle compiled,
      (generate plan occasion.runId objective asked).result = .ok (.ok scenarios, start) ∧
      (validateAll plan occasion.runId objective.url scenarios start).result =
        .ok (validated, middle) ∧
      (compileValidated plan occasion.runId validated middle).result = .ok (compiled, t) ∧
      ended = compiled.map fun found => resultOf plan occasion validated found.1 found.2 := by
  rw [run, result_bind_of_ok hpoll] at h
  obtain ⟨generated, start, hgenerated, h⟩ := result_bind_eq_ok h
  cases generated with
  | error error =>
      obtain ⟨rfl, rfl⟩ := Prod.mk.inj (Except.ok.inj h)
      exact Or.inl ⟨error, hgenerated, rfl⟩
  | ok scenarios =>
      obtain ⟨validated, middle, hvalidated, h⟩ := result_bind_eq_ok h
      obtain ⟨compiled, after, hcompiled, h⟩ := result_bind_eq_ok h
      refine Or.inr ⟨scenarios, start, validated, middle, compiled, hgenerated, hvalidated, ?_⟩
      cases compiled with
      | error error =>
          obtain ⟨rfl, rfl⟩ := Prod.mk.inj (Except.ok.inj h)
          exact ⟨hcompiled, rfl⟩
      | ok found =>
          obtain ⟨rfl, rfl⟩ := Prod.mk.inj (Except.ok.inj h)
          exact ⟨hcompiled, rfl⟩

/-- What a run with a result has done: its scenarios were generated, validated and
compiled, one after another. -/
theorem exists_of_run_eq_ok {result : Result}
    (h : (run plan occasion objective s).value = .ok (.ok result)) :
    ∃ scenarios start validated middle compilations errors last,
      (generate plan occasion.runId objective (plan.meanwhile s)).result =
        .ok (.ok scenarios, start) ∧
      (validateAll plan occasion.runId objective.url scenarios start).result =
        .ok (validated, middle) ∧
      (compileValidated plan occasion.runId validated middle).result =
        .ok (.ok (compilations, errors), last) ∧
      result = resultOf plan occasion validated compilations errors := by
  have hresult := Done.result_eq_ok_iff.mpr ⟨h, rfl⟩
  cases hcancelled : plan.isCancelled (plan.meanwhile s) with
  | true =>
      rw [run, result_bind, result_poll, hcancelled] at hresult
      exact absurd (Prod.mk.inj (Except.ok.inj hresult)).1 (by simp)
  | false =>
      have hpoll : (plan.poll s).result = .ok (false, plan.meanwhile s) := by
        rw [result_poll, hcancelled]
      rcases run_cases hpoll hresult with ⟨error, -, hended⟩ |
        ⟨scenarios, start, validated, middle, compiled, hgenerated, hvalidated, hcompiled, hended⟩
      · exact absurd hended (by simp)
      · cases compiled with
        | error error => exact absurd hended (by simp [Except.map])
        | ok found =>
            exact ⟨scenarios, start, validated, middle, found.1, found.2, _, hgenerated,
              hvalidated, hcompiled, Except.ok.inj hended⟩

theorem result_run (hplan : plan.IsCalm I) (hs : I s) (hstart : I start)
    (hreply : (Generation.generate plan.client? plan.model objective s).result =
      .ok (.ok reply, start))
    (hparsed : Reply.scenarios plan.replyDepth reply occasion.runId = .ok scenarios)
    (hdigits : ∀ scenario ∈ scenarios, ∀ step ∈ scenario.steps,
      Suite.excessDigits? step = none) :
    ∃ (k : Nat) (validated : Validated),
      ValidatesTo plan objective.url start scenarios k validated
        (run plan occasion objective s).state ∧
      ((plan.Contains scenarios ∧ ∃ compilations errors,
        (run plan occasion objective s).value =
          .ok (.ok (resultOf plan occasion validated compilations errors)) ∧
        ∀ error ∈ errors, isInputError error = true) ∨
      ¬ plan.Contains scenarios ∧ ∃ found,
        (run plan occasion objective s).value = .ok (.error (.compilation (.noName found)))) := by
  have hpoll := hplan.result_poll hs
  obtain ⟨k, validated, after, hvalidated, hafter, h⟩ :=
    result_validateAll hplan objective.url occasion.runId scenarios hstart
  refine ⟨k, validated, ?_⟩
  rcases result_compileValidated (hplan.result_poll hafter) h occasion.runId hdigits with
    ⟨hcontains, compilations, errors, hend, herrors⟩ | ⟨hnot, found, hend⟩
  · obtain ⟨hvalue, hstate⟩ := Done.result_eq_ok_iff.mp
      (result_run_of_compiled hpoll hreply hparsed hvalidated hend)
    rw [hstate]
    exact ⟨h, Or.inl ⟨hcontains, compilations, errors, hvalue, herrors⟩⟩
  · obtain ⟨hvalue, hstate⟩ := Done.result_eq_ok_iff.mp
      (result_run_of_compiled hpoll hreply hparsed hvalidated hend)
    rw [hstate]
    exact ⟨h, Or.inr ⟨hnot, found, hvalue⟩⟩

theorem place_unique {P : Nat → Prop} {n k l : Nat} (hk : (∀ i < k, P i) ∧ (k < n → ¬ P k))
    (hl : (∀ i < l, P i) ∧ (l < n → ¬ P l)) (hkn : k ≤ n) (hln : l ≤ n) : k = l := by
  rcases Nat.lt_trichotomy k l with h | h | h
  · exact absurd (hl.1 k h) (hk.2 (Nat.lt_of_lt_of_le h hln))
  · exact h
  · exact absurd (hk.1 l h) (hl.2 (Nat.lt_of_lt_of_le h hkn))

/-- A run opens a page for each scenario up to the first one for which the
application cannot be reached, and no page after that. -/
theorem run_recorded (hplan : plan.IsCalm I) (hs : I s) (hstart : I start)
    (hreply : (Generation.generate plan.client? plan.model objective s).result =
      .ok (.ok reply, start))
    (hparsed : Reply.scenarios plan.replyDepth reply occasion.runId = .ok scenarios)
    (hdigits : ∀ scenario ∈ scenarios, ∀ step ∈ scenario.steps,
      Suite.excessDigits? step = none)
    {k : Nat} (hk : k ≤ scenarios.length)
    (hreaches : (∀ i < k, Reaches plan objective.url (stateAt plan objective.url start scenarios i)) ∧
      (k < scenarios.length →
        ¬ Reaches plan objective.url (stateAt plan objective.url start scenarios k))) :
    ∃ trace, run plan.recorded occasion objective ⟨s, []⟩ =
        ⟨(run plan occasion objective s).value, ⟨(run plan occasion objective s).state, trace⟩,
          (run plan occasion objective s).log⟩ ∧
      trace.countP Event.isOpened = min (k + 1) scenarios.length := by
  obtain ⟨none, hnone, hreply'⟩ :=
    (records_reply (fun _ => false) plan objective).result_ok hreply []
  obtain rfl : none = [] := List.eq_nil_iff_forall_not_mem.mpr fun event hevent =>
    absurd (hnone event hevent) (by simp)
  -- The recorded run is a run of its own; it stops at the same place.
  obtain ⟨l, validated, hvalidated, -⟩ :=
    result_run hplan.recorded hs hstart hreply' hparsed hdigits
  have hreached := fun i hi => reaches_stateAt_recorded_iff hplan.resolver objective.url scenarios
    (i := i) hi start []
  have hl := hvalidated.le_length
  obtain ⟨hbefore, hat⟩ := hvalidated.reaches_iff
  have hplaces : l = k := by
    refine place_unique ⟨fun i hi => ?_, fun hlt => ?_⟩ hreaches hl hk
    · exact (hreached i (Nat.le_of_lt (Nat.lt_of_lt_of_le hi hl))).mp (hbefore i hi)
    · exact fun hreach => hat hlt ((hreached l hl).mpr hreach)
  obtain ⟨trace, -, htrace⟩ :=
    records_run plan hplan.resolver occasion objective s []
  refine ⟨trace, htrace, ?_⟩
  obtain ⟨more, hcount, hstate⟩ := stateAt_recorded hplan.resolver objective.url scenarios
    (Nat.min_le_right (l + 1) scenarios.length) start []
  have hsame := hvalidated.state_eq.trans hstate
  rw [htrace] at hsame
  have hmore : trace = more := congrArg Recorded.trace hsame
  rw [hmore, hcount, hplaces]

/-- What a result holds of scenarios of which those before the place `k` were
validated, each in the state that the ones before it led to. -/
structure Result.HoldsUpTo (plan : Plan σ η) (url runId : Text) (start : σ)
    (scenarios : List Scenario) (k : Nat) (result : Result) : Prop where
  length : result.generation.outputs.length = scenarios.length
  id : ∀ (i : Nat) output, result.generation.outputs[i]? = some output →
    output.scenario.id = runId ++ "-" ++ toString (i + 1)
  report : ∀ (i : Nat) scenario, i < k → scenarios[i]? = some scenario → ∃ report,
    (validateOne plan url scenario (stateAt plan url start scenarios i)).value = .ok (.ok report) ∧
      report.IsFor scenario ∧
      result.generation.outputs[i]? = some ⟨report.scenario, report.outcomes⟩
  draft : ∀ (i : Nat) scenario, k ≤ i → scenarios[i]? = some scenario →
    result.generation.outputs[i]? = some ⟨scenario, []⟩
  navigationError :
    result.errors.countP isNavigationError = if k < scenarios.length then 1 else 0

theorem isNavigationError_of_isInputError {error : StageError} (h : isInputError error = true) :
    isNavigationError error = false :=
  kind_beq_of_ne h (by decide)

theorem ValidatesTo.holdsUpTo {k : Nat} {validated : Validated} {after : σ}
    (h : ValidatesTo plan objective.url start scenarios k validated after)
    (hparsed : Reply.scenarios plan.replyDepth reply occasion.runId = .ok scenarios)
    (compilations : List Compilation) {errors : List StageError}
    (herrors : ∀ error ∈ errors, isInputError error = true) :
    (resultOf plan occasion validated compilations errors).HoldsUpTo plan objective.url
      occasion.runId start scenarios k where
  length := h.length_eq
  id := by
    intro i output houtput
    obtain ⟨scenario, hscenario⟩ := h.scenario_of_output houtput
    obtain ⟨found, hfound, hid, -⟩ := h.output_of_scenario hscenario
    obtain rfl := Option.some.inj (hfound.symm.trans houtput)
    rw [hid, Reply.scenarios_id hparsed hscenario]
  report := fun i scenario hi hscenario => (h.output_eq hscenario).1 hi
  draft := fun i scenario hi hscenario => (h.output_eq hscenario).2 hi
  navigationError := by
    have hnone : errors.countP isNavigationError = 0 := by
      rw [List.countP_eq_zero]
      intro error herror
      simp [isNavigationError_of_isInputError (herrors error herror)]
    change (validated.errors ++ errors).countP isNavigationError = _
    rw [List.countP_append, hnone, h.countP_errors, Nat.add_zero]

/-- However pages fail, a run that nobody cancels has a result that holds all of its
scenarios, up to the first one for which the application cannot be reached as they
were validated, and no page is opened after that.  Only a scenario that makes no name
keeps it from having one. -/
theorem run_contained (hplan : plan.IsCalm I) (hs : I s) (hstart : I start)
    (hreply : (Generation.generate plan.client? plan.model objective s).result =
      .ok (.ok reply, start))
    (hparsed : Reply.scenarios plan.replyDepth reply occasion.runId = .ok scenarios)
    (hdigits : ∀ scenario ∈ scenarios, ∀ step ∈ scenario.steps,
      Suite.excessDigits? step = none) :
    ∃ k ≤ scenarios.length,
      ((∀ i < k, Reaches plan objective.url (stateAt plan objective.url start scenarios i)) ∧
        (k < scenarios.length →
          ¬ Reaches plan objective.url (stateAt plan objective.url start scenarios k))) ∧
      (∃ trace, run plan.recorded occasion objective ⟨s, []⟩ =
          ⟨(run plan occasion objective s).value, ⟨(run plan occasion objective s).state, trace⟩,
            (run plan occasion objective s).log⟩ ∧
        trace.countP Event.isOpened = min (k + 1) scenarios.length) ∧
      (plan.Contains scenarios ↔
        ∃ result, (run plan occasion objective s).value = .ok (.ok result)) ∧
      (∀ result, (run plan occasion objective s).value = .ok (.ok result) →
        result.HoldsUpTo plan objective.url occasion.runId start scenarios k) ∧
      (¬ plan.Contains scenarios → ∃ found,
        (run plan occasion objective s).value =
          .ok (.error (.compilation (.noName found)))) := by
  obtain ⟨k, validated, hvalidated, hend⟩ :=
    result_run hplan hs hstart hreply hparsed hdigits
  have hreaches := hvalidated.reaches_iff
  have hrecorded := run_recorded hplan hs hstart hreply hparsed hdigits hvalidated.le_length hreaches
  refine ⟨k, hvalidated.le_length, hreaches, hrecorded, ?_⟩
  rcases hend with ⟨hcontains, compilations, errors, hvalue, herrors⟩ | ⟨hnot, found, hvalue⟩
  · refine ⟨⟨fun _ => ⟨_, hvalue⟩, fun _ => hcontains⟩, ?_, fun hnot => absurd hcontains hnot⟩
    intro result hresult
    rw [hvalue] at hresult
    obtain rfl := Except.ok.inj (Except.ok.inj hresult)
    exact hvalidated.holdsUpTo hparsed compilations herrors
  · rw [hvalue]
    refine ⟨⟨fun hcontains => absurd hcontains hnot, ?_⟩, ?_, fun _ => ⟨found, rfl⟩⟩
    · rintro ⟨result, hresult⟩
      exact absurd (Except.ok.inj hresult) nofun
    · intro result hresult
      exact absurd (Except.ok.inj hresult) nofun

def emptyPage : Page Nat Unit where
  visit _ := pure ()
  find _ := pure none
  attributeOf _ _ := pure none
  textOf _ := pure none
  perform _ := pure ()
  close := pure ()

theorem emptyPage_calmIn (I : Nat → Prop) : emptyPage.CalmIn I where
  find _ := .pure none
  attributeOf _ _ := .pure none
  textOf _ := .pure none
  visit _ := .pure ()
  perform _ := .pure ()

/-- A plan for a reply, with one page to be opened; the state counts how often that
was tried. -/
def onePagePlan (reply : Text) : Plan Nat Unit where
  client? := some fun _ => pure (some reply)
  model := "model"
  openPage := fun tries =>
    ⟨if tries = 0 then .ok emptyPage else .error (.failure ⟨"Error", "no page left"⟩),
      tries + 1, []⟩
  resolver := Validation.standardResolver
  isCancelled _ := false
  options := ⟨none, none, false, .locator⟩

theorem onePagePlan_isCalm (reply : Text) : (onePagePlan reply).IsCalm fun _ => True := by
  have hempty {tries : Nat} {page : Page Nat Unit}
      (hopened : ((onePagePlan reply).openPage tries).value = .ok page) : page = emptyPage := by
    -- Only the first try has a page.
    unfold onePagePlan at hopened
    dsimp only at hopened
    split at hopened
    · exact (Except.ok.inj hopened).symm
    · exact absurd hopened nofun
  constructor
  · rfl
  · exact fun _ _ => rfl
  · exact fun _ _ => rfl
  · refine ⟨fun _ _ => trivial, fun tries _ message h => ?_⟩
    unfold onePagePlan at h
    dsimp only at h
    split at h <;> exact absurd h nofun
  · intro tries page _ hopened
    obtain rfl := hempty hopened
    exact emptyPage_calmIn _
  · intro tries page _ hopened _ _
    obtain rfl := hempty hopened
    exact ⟨rfl, trivial⟩

def twoScenariosReply : Text :=
  "[\x7b\"name\":\"a\",\"steps\":[\x7b\"action\":\"click\",\"target\":\"#a\"\x7d]\x7d," ++
    "\x7b\"name\":\"b\",\"steps\":[]\x7d]"

/-- A reply with a scenario the name of which is a surrogate. -/
def surrogateReply : Text := "\x7b\"name\":\"\\ud800\",\"steps\":[]\x7d"

def firstScenario : Scenario := ⟨"run-1", "a", none, [⟨.click, "#a", none, ""⟩], []⟩

def secondScenario : Scenario := ⟨"run-2", "b", none, [], []⟩

def rehearsal : Occasion := ⟨"run", ⟨0⟩, ⟨0⟩, ""⟩

theorem scenarios_twoScenariosReply :
    Reply.scenarios Datum.Json.maxDepth twoScenariosReply rehearsal.runId =
      .ok [firstScenario, secondScenario] := by
  decide +kernel

def anyObjective : Objective := ⟨"objective", "/", none⟩

theorem reaches_onePagePlan_iff (reply url : Text) (tries : Nat) :
    Reaches (onePagePlan reply) url tries ↔ tries = 0 := by
  constructor
  · rintro ⟨page, hopened, -⟩
    unfold onePagePlan at hopened
    dsimp only at hopened
    split at hopened
    · assumption
    · exact absurd hopened nofun
  · rintro rfl
    exact ⟨emptyPage, rfl, rfl⟩

theorem run_twoScenarios_contained :
    ∃ result, (run (onePagePlan twoScenariosReply) rehearsal anyObjective 0).value =
        .ok (.ok result) ∧
      result.generation.outputs.length = 2 ∧
      result.generation.outputs[1]? = some ⟨secondScenario, []⟩ ∧
      result.errors.countP isNavigationError = 1 := by
  have hreply : (Generation.generate (onePagePlan twoScenariosReply).client?
      (onePagePlan twoScenariosReply).model anyObjective 0).result =
        .ok (.ok twoScenariosReply, 0) := rfl
  have hdigits : ∀ scenario ∈ [firstScenario, secondScenario], ∀ step ∈ scenario.steps,
      Suite.excessDigits? step = none := by
    decide +kernel
  have hcontains : (onePagePlan twoScenariosReply).Contains [firstScenario, secondScenario] := by
    intro i scenario hscenario
    have hnames : ∀ scenario ∈ [firstScenario, secondScenario],
        Suite.HasNames scenario (onePagePlan twoScenariosReply).options := by
      decide +kernel
    exact Or.inr (hnames scenario (List.mem_of_getElem? hscenario))
  obtain ⟨k, hk, ⟨hbefore, hat⟩, -, hiff, hholds, -⟩ :=
    run_contained (onePagePlan_isCalm twoScenariosReply) trivial trivial hreply
      scenarios_twoScenariosReply hdigits
  obtain ⟨result, hvalue⟩ := hiff.mp hcontains
  have hresult := hholds result hvalue
  simp only [reaches_onePagePlan_iff] at hbefore hat
  have htried : stateAt (onePagePlan twoScenariosReply) anyObjective.url 0
      [firstScenario, secondScenario] 1 = 1 := rfl
  have hone : k = 1 := by
    rcases Nat.lt_trichotomy k 1 with h | h | h
    · obtain rfl : k = 0 := Nat.lt_one_iff.mp h
      exact absurd rfl (hat (by decide))
    · exact h
    · exact absurd (htried.symm.trans (hbefore 1 h)) (by decide)
  subst hone
  exact ⟨result, hvalue, hresult.length, hresult.draft 1 _ (Nat.le_refl 1) rfl,
    hresult.navigationError⟩

/-- A scenario whose name is a surrogate leaves a run without a result. -/
theorem run_surrogateName_fails :
    (onePagePlan surrogateReply).IsCalm (fun _ => True) ∧
      Reply.scenarios Datum.Json.maxDepth surrogateReply rehearsal.runId =
        .ok [⟨"run-1", [.surrogate 0], none, [], []⟩] ∧
      ∃ found, (run (onePagePlan surrogateReply) rehearsal anyObjective 0).value =
        .ok (.error (.compilation (.noName found))) :=
  ⟨onePagePlan_isCalm _, by decide +kernel, ⟨.surrogate 0, 0, 0⟩, by decide +kernel⟩

end Run

end PageScript
