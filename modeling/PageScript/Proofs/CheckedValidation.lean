import PageScript.Proofs.RecordedRun

namespace PageScript.Run

open Routine
open Scripted (Event)

variable {σ η : Type} {I : σ → Prop} {plan : Plan σ η} {url runId : Text} {s : σ}
  {scenarios : List Scenario} {m : Nat}

/-- The state in which a run asks, before the scenario at a place is validated,
whether it is cancelled. -/
def checkedAt (plan : Plan σ η) (url : Text) (s : σ) (scenarios : List Scenario) (i : Nat) : σ :=
  (scenarios.take i).foldl
    (fun s scenario => plan.meanwhile (validateOne plan url scenario s).state) (plan.meanwhile s)

theorem checkedAt_zero (plan : Plan σ η) (url : Text) (s : σ) (scenarios : List Scenario) :
    checkedAt plan url s scenarios 0 = plan.meanwhile s := by
  rw [checkedAt, List.take_zero, List.foldl_nil]

theorem checkedAt_cons_succ (plan : Plan σ η) (url : Text) (s : σ) (scenario : Scenario)
    (rest : List Scenario) (i : Nat) :
    checkedAt plan url s (scenario :: rest) (i + 1) =
      checkedAt plan url (validateOne plan url scenario (plan.meanwhile s)).state rest i := rfl

theorem checkedAt_succ (plan : Plan σ η) (url : Text) (s : σ) {i : Nat} {scenario : Scenario}
    (hscenario : scenarios[i]? = some scenario) :
    checkedAt plan url s scenarios (i + 1) =
      plan.meanwhile
        (validateOne plan url scenario (checkedAt plan url s scenarios i)).state := by
  rw [checkedAt, List.take_add_one, hscenario, Option.toList_some, List.foldl_append,
    List.foldl_cons, List.foldl_nil, checkedAt]

/-- Validation comes to the scenario at a place: no check before finds the run
cancelled, and the application is reached after each of them. -/
def ComesTo (plan : Plan σ η) (url : Text) (s : σ) (scenarios : List Scenario) (m : Nat) : Prop :=
  ∀ i < m, plan.isCancelled (checkedAt plan url s scenarios i) = false ∧
    Reaches plan url (checkedAt plan url s scenarios i)

theorem comesTo_cons_succ {scenario : Scenario} {rest : List Scenario} :
    ComesTo plan url s (scenario :: rest) (m + 1) ↔
      (plan.isCancelled (plan.meanwhile s) = false ∧ Reaches plan url (plan.meanwhile s)) ∧
        ComesTo plan url (validateOne plan url scenario (plan.meanwhile s)).state rest m := by
  constructor
  · intro h
    refine ⟨h 0 (Nat.succ_pos m), fun i hi => ?_⟩
    exact h (i + 1) (Nat.succ_lt_succ hi)
  · rintro ⟨hfirst, hrest⟩ i hi
    cases i with
    | zero => exact hfirst
    | succ i => exact hrest i (Nat.lt_of_succ_lt_succ hi)

/-- What was validated before, in front of what becomes of the scenarios behind. -/
def withValidated (outputs : List Output) (errors : List StageError) :
    Validated × σ → Validated × σ :=
  Prod.map (fun later => ⟨outputs ++ later.outputs, errors ++ later.errors, later.ending⟩) id

/-- One step of validating scenarios: the run asks whether it is cancelled, and if it
is not, it validates the next scenario and goes on unless the application cannot be
reached. -/
theorem result_validateAll_step (plan : Plan σ η) (runId url : Text) (scenario : Scenario)
    (rest : List Scenario) (s : σ) :
    (validateAll plan runId url (scenario :: rest) s).result =
      if plan.isCancelled (plan.meanwhile s) then
        .ok (⟨drafts (scenario :: rest), [cancellation runId "validation"], .cancelled⟩,
          plan.meanwhile s)
      else (validateOne plan url scenario (plan.meanwhile s)).result >>= fun ended =>
        match ended.1 with
        | .error error =>
            .ok (⟨drafts (scenario :: rest), [navigationEntry error], .stopped⟩, ended.2)
        | .ok report =>
            (validateAll plan runId url rest ended.2).result.map
              (withValidated [⟨report.scenario, report.outcomes⟩]
                (unresolved? scenario.id report.outcomes).toList) := by
  rw [validateAll, result_bind, result_poll]
  cases plan.isCancelled (plan.meanwhile s) with
  | true => rfl
  | false =>
      simp only [Bool.false_eq_true, if_false]
      refine (result_bind (validateOne plan url scenario) _ _).trans ?_
      rcases (validateOne plan url scenario (plan.meanwhile s)).result with
        stopped | ⟨error | report, middle⟩
      · rfl
      · rfl
      · refine (result_bind (validateAll plan runId url rest) _ middle).trans ?_
        change _ = Except.map _ (validateAll plan runId url rest middle).result
        rcases (validateAll plan runId url rest middle).result with stopped | ⟨later, after⟩ <;> rfl

/-- How validating scenarios comes to an end: at a check that finds the run cancelled, at
the first scenario, or where it does for the scenarios behind that. -/
theorem validateAll_cons_cases {runId : Text} {scenario : Scenario} {rest : List Scenario}
    {t : σ} {validated : Validated}
    (h : (validateAll plan runId url (scenario :: rest) s).result = .ok (validated, t)) :
    (plan.isCancelled (plan.meanwhile s) = true ∧
      validated = ⟨drafts (scenario :: rest), [cancellation runId "validation"], .cancelled⟩) ∨
    plan.isCancelled (plan.meanwhile s) = false ∧
      ((∃ error, (validateOne plan url scenario (plan.meanwhile s)).value = .ok (.error error) ∧
        validated = ⟨drafts (scenario :: rest), [navigationEntry error], .stopped⟩) ∨
      ∃ report later,
        (validateOne plan url scenario (plan.meanwhile s)).value = .ok (.ok report) ∧
        (validateAll plan runId url rest
          (validateOne plan url scenario (plan.meanwhile s)).state).result = .ok (later, t) ∧
        validated = ⟨⟨report.scenario, report.outcomes⟩ :: later.outputs,
          (unresolved? scenario.id report.outcomes).toList ++ later.errors, later.ending⟩) := by
  rw [result_validateAll_step] at h
  cases hcancelled : plan.isCancelled (plan.meanwhile s) with
  | true =>
      rw [hcancelled, if_pos rfl] at h
      exact Or.inl ⟨rfl, (Prod.mk.inj (Except.ok.inj h)).1.symm⟩
  | false =>
      rw [hcancelled, if_neg (by decide)] at h
      obtain ⟨⟨ended, middle⟩, hone, hrest⟩ := bind_eq_ok h
      obtain ⟨hvalue, rfl⟩ := Done.result_eq_ok_iff.mp hone
      refine Or.inr ⟨rfl, ?_⟩
      cases ended with
      | error error =>
          exact Or.inl ⟨error, hvalue, (Prod.mk.inj (Except.ok.inj hrest)).1.symm⟩
      | ok report =>
          dsimp only at hrest
          cases hlater : (validateAll plan runId url rest
              (validateOne plan url scenario (plan.meanwhile s)).state).result with
          | error stopped =>
              rw [hlater] at hrest
              exact nomatch hrest
          | ok found =>
              obtain ⟨later, after⟩ := found
              rw [hlater] at hrest
              obtain ⟨rfl, rfl⟩ := Prod.mk.inj (Except.ok.inj hrest)
              exact Or.inr ⟨report, later, hvalue, rfl, rfl⟩

/-- What validation makes of the first `m` scenarios: the report of each in the state
that the ones before it led to, and entries for steps that are not resolved. -/
structure AreValidated (plan : Plan σ η) (url : Text) (s : σ) (scenarios : List Scenario) (m : Nat)
    (outputs : List Output) (errors : List StageError) : Prop where
  length : outputs.length = m
  report : ∀ (i : Nat) scenario, i < m → scenarios[i]? = some scenario → ∃ report,
    (validateOne plan url scenario (checkedAt plan url s scenarios i)).value = .ok (.ok report) ∧
      report.IsFor scenario ∧ outputs[i]? = some ⟨report.scenario, report.outcomes⟩
  warning : ∀ error ∈ errors, error.kind = "StepResolutionWarning"

theorem areValidated_nil (plan : Plan σ η) (url : Text) (s : σ) (scenarios : List Scenario) :
    AreValidated plan url s scenarios 0 [] [] where
  length := rfl
  report i _ hi := absurd hi (Nat.not_lt_zero i)
  warning _ herror := absurd herror List.not_mem_nil

theorem AreValidated.cons {scenario : Scenario} {rest : List Scenario} {report : Report}
    {outputs : List Output} {errors : List StageError}
    (hvalue : (validateOne plan url scenario (plan.meanwhile s)).value = .ok (.ok report))
    (hreport : report.IsFor scenario)
    (h : AreValidated plan url (validateOne plan url scenario (plan.meanwhile s)).state rest m
      outputs errors) :
    AreValidated plan url s (scenario :: rest) (m + 1)
      (⟨report.scenario, report.outcomes⟩ :: outputs)
      ((unresolved? scenario.id report.outcomes).toList ++ errors) where
  length := congrArg (· + 1) h.length
  report i found hi hfound := by
    cases i with
    | zero =>
        obtain rfl := Option.some.inj hfound
        exact ⟨report, hvalue, hreport, rfl⟩
    | succ i => exact h.report i found (Nat.lt_of_succ_lt_succ hi) hfound
  warning error herror := by
    rcases List.mem_append.mp herror with hfirst | hlater
    · exact ValidatesTo.unresolved?_kind (Option.mem_toList.mp hfirst)
    · exact h.warning error hlater

/-- Validation that comes to a place keeps what it made of the scenarios before, and
goes on from there. -/
theorem result_validateAll_of_comesTo (hplan : plan.IsUninterrupted I) (hs : I s) (runId : Text)
    (hm : m ≤ scenarios.length) (hcomes : ComesTo plan url s scenarios m) :
    ∃ outputs errors t, AreValidated plan url s scenarios m outputs errors ∧ I t ∧
      plan.meanwhile t = checkedAt plan url s scenarios m ∧
      (validateAll plan runId url scenarios s).result =
        (validateAll plan runId url (scenarios.drop m) t).result.map
          (withValidated outputs errors) := by
  induction m generalizing scenarios s with
  | zero =>
      refine ⟨[], [], s, areValidated_nil plan url s scenarios, hs,
        (checkedAt_zero plan url s scenarios).symm, ?_⟩
      rw [List.drop_zero]
      exact Except.map_id.symm ▸ rfl
  | succ m ih =>
      cases scenarios with
      | nil => exact absurd hm (Nat.not_succ_le_zero m)
      | cons scenario rest =>
          obtain ⟨⟨hfree, hreaches⟩, hlater⟩ := comesTo_cons_succ.mp hcomes
          obtain ⟨report, middle, hresult, hmiddle, hreport⟩ :=
            validateOne_of_reaches hplan (hplan.meanwhile s hs) hreaches scenario
          obtain ⟨hvalue, rfl⟩ := Done.result_eq_ok_iff.mp hresult
          obtain ⟨outputs, errors, t, hvalidated, ht, hchecked, hrest⟩ :=
            ih hmiddle (Nat.le_of_succ_le_succ hm) hlater
          refine ⟨_, _, t, hvalidated.cons hvalue hreport, ht, hchecked, ?_⟩
          rw [result_validateAll_step, hfree, if_neg (by decide), hresult]
          change Except.map _ (validateAll plan runId url rest _).result = _
          rw [hrest, List.drop_succ_cons]
          rcases (validateAll plan runId url (rest.drop m) t).result with
            stopped | ⟨later, after⟩
          · rfl
          · simp [Except.map, withValidated]

/-- A check that finds the run cancelled ends validation: the scenarios from there on
stay as they are, and the cancellation is the last entry. -/
theorem result_validateAll_of_cancelled (hplan : plan.IsUninterrupted I) (hs : I s) (runId : Text)
    (hm : m < scenarios.length) (hcomes : ComesTo plan url s scenarios m)
    (hcancelled : plan.isCancelled (checkedAt plan url s scenarios m) = true) :
    ∃ outputs errors, AreValidated plan url s scenarios m outputs errors ∧
      (validateAll plan runId url scenarios s).result =
        .ok (⟨outputs ++ drafts (scenarios.drop m), errors ++ [cancellation runId "validation"],
          .cancelled⟩, checkedAt plan url s scenarios m) := by
  obtain ⟨outputs, errors, t, hvalidated, -, hchecked, hresult⟩ :=
    result_validateAll_of_comesTo hplan hs runId (Nat.le_of_lt hm) hcomes
  refine ⟨outputs, errors, hvalidated, ?_⟩
  rw [hresult, List.drop_eq_getElem_cons hm, result_validateAll_step, hchecked, hcancelled,
    if_pos rfl]
  rfl

/-- Validation ends at a place without being cancelled: there the application cannot
be reached, or all scenarios are validated. -/
def EndsAt (plan : Plan σ η) (url : Text) (s : σ) (scenarios : List Scenario) (m : Nat) : Prop :=
  ComesTo plan url s scenarios m ∧ (m < scenarios.length →
    plan.isCancelled (checkedAt plan url s scenarios m) = false ∧
      ¬ Reaches plan url (checkedAt plan url s scenarios m))

/-- Validation that no check ends: the scenarios from the place on at which the
application cannot be reached stay as they are, and one entry tells of that. -/
theorem result_validateAll_of_endsAt (hplan : plan.IsUninterrupted I) (hs : I s) (runId : Text)
    (hm : m ≤ scenarios.length) (hends : EndsAt plan url s scenarios m) :
    ∃ outputs errors ending after found, AreValidated plan url s scenarios m outputs errors ∧
      ending ≠ .cancelled ∧ (∀ error ∈ found, isNavigationError error = true) ∧
      found.length = min (m + 1) scenarios.length - m ∧
      plan.meanwhile after = checkedAt plan url s scenarios (min (m + 1) scenarios.length) ∧
      (validateAll plan runId url scenarios s).result =
        .ok (⟨outputs ++ drafts (scenarios.drop m), errors ++ found, ending⟩, after) := by
  obtain ⟨hcomes, hat⟩ := hends
  obtain ⟨outputs, errors, t, hvalidated, ht, hchecked, hresult⟩ :=
    result_validateAll_of_comesTo hplan hs runId hm hcomes
  rcases Nat.eq_or_lt_of_le hm with rfl | hlt
  · refine ⟨outputs, errors, .complete, t, [], hvalidated, by decide, by simp, by simp, ?_, ?_⟩
    · rw [hchecked, Nat.min_eq_right (Nat.le_succ _)]
    · rw [hresult, List.drop_length]
      rfl
  · obtain ⟨hfree, hreaches⟩ := hat hlt
    rw [← hchecked] at hfree hreaches
    obtain ⟨error, after, hone, -⟩ :=
      validateOne_of_not_reaches hplan (hplan.meanwhile t ht) hreaches scenarios[m]
    have hafter := (Done.result_eq_ok_iff.mp hone).2
    refine ⟨outputs, errors, .stopped, after, [navigationEntry error], hvalidated, nofun, ?_, ?_,
      ?_, ?_⟩
    · intro entry hentry
      obtain rfl := List.mem_singleton.mp hentry
      rfl
    · rw [Nat.min_eq_left hlt, List.length_singleton]
      omega
    · rw [Nat.min_eq_left hlt, checkedAt_succ plan url s (List.getElem?_eq_getElem hlt), ← hchecked,
        hafter]
    · rw [hresult, List.drop_eq_getElem_cons hlt, result_validateAll_step, hfree,
        if_neg (by decide), hone]
      rfl

theorem checkedAt_recorded (hplan : plan.resolver = Validation.standardResolver) (url : Text)
    (scenarios : List Scenario) {i : Nat} (hi : i ≤ scenarios.length) (s : σ) (trace : List Event) :
    ∃ more, more.countP Event.isOpened = i ∧
      checkedAt plan.recorded url ⟨s, trace⟩ scenarios i =
        ⟨checkedAt plan url s scenarios i, trace ++ more⟩ := by
  induction i generalizing scenarios s trace with
  | zero =>
      refine ⟨[], rfl, ?_⟩
      rw [checkedAt_zero, checkedAt_zero, List.append_nil]
      rfl
  | succ i ih =>
      cases scenarios with
      | nil => exact absurd hi (Nat.not_succ_le_zero i)
      | cons scenario rest =>
          obtain ⟨first, hfirst, hstate⟩ :=
            (validateOne_recorded hplan url scenario).countP_isOpened (plan.meanwhile s) trace
          obtain ⟨more, hmore, hrest⟩ := ih rest (Nat.le_of_succ_le_succ hi)
            (validateOne plan url scenario (plan.meanwhile s)).state (trace ++ first)
          refine ⟨first ++ more, ?_, ?_⟩
          · rw [List.countP_append, hfirst, hmore, Nat.add_comm]
          · have hmeanwhile : plan.recorded.meanwhile ⟨s, trace⟩ = ⟨plan.meanwhile s, trace⟩ := rfl
            rw [checkedAt_cons_succ, checkedAt_cons_succ, hmeanwhile, hstate, hrest,
              List.append_assoc]

end PageScript.Run
