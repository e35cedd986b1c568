import PageScript.Proofs.FactoredSuite
/-!
The arguments in generated tests.  A literal denotes the code units of its text,
so a step is done with its own target and data unless one of these has a
character that needs two units.
-/

namespace PageScript

theorem placesFrom_eq_nil_iff {α : Type} {p : α → Bool} {i : Nat} {items : List α} :
    placesFrom p i items = [] ↔ ∀ item ∈ items, p item = false := by
  induction items generalizing i with
  | nil => simp [placesFrom]
  | cons item items ih =>
      rw [placesFrom, List.forall_mem_cons, ← ih (i := i + 1)]
      cases p item <;> simp

namespace Suite

theorem lacksData_eq_false_of_compile {scenario : Scenario} {options : Options}
    {outcomes : List Outcome} {artifact : Artifact}
    (hartifact : compile scenario options outcomes = .ok artifact) :
    ∀ step ∈ scenario.steps, step.lacksData = false := by
  obtain ⟨hnone, -⟩ := compile_eq_ok_iff.mp hartifact
  have hplaces : scenario.stepsLackingData = [] := by
    unfold compileError? at hnone
    split at hnone
    · assumption
    · exact absurd hnone (by simp)
  exact placesFrom_eq_nil_iff.mp hplaces

/-- The texts that a test hands over for a step: the address, or what is named by
the locator of the target, and the data that the action needs. -/
def stepTexts (style : Style) (step : Step) : List Text :=
  (if step.seeksElement then (Locator.ofTarget style step.target).texts
    else if step.action = .goto then [step.target] else []) ++
  (if step.needsData then step.data?.toList else [])

/-- Without roles and labels, they are the target and the data themselves; only a pause, whose
target is a number, has none. -/
theorem stepTexts_locator (step : Step) :
    stepTexts .locator step =
      (if step.IsPause then [] else [step.target]) ++
        if step.action ∈ [.fill, .type, .select] then step.data?.toList else [] := by
  have hdata : (if step.needsData then step.data?.toList else []) =
      if step.action ∈ [.fill, .type, .select] then step.data?.toList else [] := by
    unfold Step.needsData
    cases step.action <;> rfl
  have htarget : (if step.seeksElement then (Locator.ofTarget .locator step.target).texts
      else if step.action = .goto then [step.target] else []) =
        if step.IsPause then [] else [step.target] := by
    cases hseeks : step.seeksElement with
    | true =>
        have hpause : ¬ step.IsPause := fun h =>
          absurd (Step.seeksElement_eq_false_iff.mpr (.inr h)) (by simp [hseeks])
        rw [if_pos rfl, if_neg hpause]
        rfl
    | false =>
        rcases Step.seeksElement_eq_false_iff.mp hseeks with hgoto | hpause
        · have hpause : ¬ step.IsPause := fun h => nomatch hgoto.symm.trans h.1
          rw [if_neg Bool.false_ne_true, if_pos hgoto, if_neg hpause]
        · have hgoto : step.action ≠ .goto := fun h => nomatch h.symm.trans hpause.1
          rw [if_neg Bool.false_ne_true, if_neg hgoto, if_pos hpause]
  rw [stepTexts, htarget, hdata]

theorem texts_onElement (action : Action) (element : Locator) (data : Text) :
    (Call.onElement action element (.literal data)).texts =
      element.texts ++ if action.needsData then [data] else [] := by
  cases action <;> simp [Call.onElement, Call.texts, Action.needsData, Argument.text?]

theorem texts_ofStep (style : Style) {step : Step} (hstep : step.lacksData = false) :
    (Call.ofStep style step (.literal (step.data?.getD ""))).texts = stepTexts style step := by
  have hdata : (if step.needsData then step.data?.toList else []) =
      if step.action.needsData then [step.data?.getD ""] else [] := by
    unfold Step.lacksData Step.needsData at hstep
    unfold Step.needsData
    cases hneeds : step.action.needsData <;> cases hvalue : step.data? <;> simp_all
  cases hseeks : step.seeksElement with
  | true =>
      rw [Call.ofStep_of_seeksElement style hseeks, texts_onElement, stepTexts, if_pos hseeks, hdata]
  | false =>
      rw [stepTexts, hdata, hseeks]
      unfold Step.seeksElement at hseeks
      unfold Call.ofStep
      cases haction : step.action with
      | goto => simp [Call.texts, Action.needsData]
      | wait =>
          rw [haction] at hseeks
          obtain ⟨digits, hdigits⟩ : ∃ digits, step.targetDigits? = some digits :=
            Option.isSome_iff_exists.mp (by simpa using hseeks)
          simp [hdigits, Call.texts, Action.needsData]
      | fill | click | expect | type | select | hover => simp [haction] at hseeks

theorem literals_stepLine (style : Style) {step : Step} (hstep : step.lacksData = false) :
    literals (stepLine style step) = (stepTexts style step).map Text.codeLiteral := by
  have hindent : ReadsAlone (Line.indentation 4) := fun _ => rfl
  have hnone : literals (Line.indentation 4) = [] := rfl
  rw [stepLine, literals_append hindent, hnone, Call.literals_code .ofTest,
    texts_ofStep style hstep, List.nil_append]

/-- What the literals in a line of code denote. -/
def argumentsRead (line : Text) : List (Option Text) := (literals line).map Text.denoted?

theorem argumentsRead_stepLine (style : Style) {step : Step} (hstep : step.lacksData = false) :
    argumentsRead (stepLine style step) =
      (stepTexts style step).map fun text => some (Text.codeUnits text) := by
  rw [argumentsRead, literals_stepLine style hstep, List.map_map]
  exact List.map_congr_left fun text _ => Text.denoted?_codeLiteral text

theorem map_codeUnits_eq_iff (texts : List Text) :
    (texts.map fun text => some (Text.codeUnits text)) = texts.map some ↔
      ∀ text ∈ texts, ∀ c ∈ text, c.toNat < 0x10000 := by
  induction texts with
  | nil => simp
  | cons text texts ih =>
      rw [List.map_cons, List.map_cons, List.cons.injEq, Option.some.injEq, ih,
        Text.codeUnits_eq_self_iff, List.forall_mem_cons]

/-- Every literal denotes the code units of its text.  So the test of a scenario
hands over the target and the data of each step if, and only if, no character in
them needs two units. -/
theorem compile_arguments_denoted {scenario : Scenario} {options : Options}
    {outcomes : List Outcome} {artifact : Artifact}
    (hartifact : compile scenario options outcomes = .ok artifact) :
    (∀ s, Text.denoted? (Text.codeLiteral s) = some (Text.codeUnits s)) ∧
    (∀ s, Text.denoted? (Text.codeLiteral s) = some s ↔ ∀ c ∈ s, c.toNat < 0x10000) ∧
    ∃ lines, artifact.expanded? = some lines ∧
      ∀ (i : Nat) step, scenario.steps[i]? = some step → ∃ line, lines[i]? = some line ∧
        argumentsRead line =
          ((stepTexts options.style step).map fun text => some (Text.codeUnits text)) ∧
        (argumentsRead line = (stepTexts options.style step).map some ↔
          ∀ text ∈ stepTexts options.style step, ∀ c ∈ text, c.toNat < 0x10000) := by
  have hdenoted := Text.denoted?_codeLiteral
  have hcomplete := lacksData_eq_false_of_compile hartifact
  obtain ⟨-, rfl⟩ := compile_eq_ok_iff.mp hartifact
  refine ⟨hdenoted, ?_, _, expanded?_artifact scenario options outcomes, ?_⟩
  · intro s
    rw [hdenoted, Option.some.injEq, Text.codeUnits_eq_self_iff]
  · intro i step hstep
    have hmem := List.mem_of_getElem? hstep
    have hread := argumentsRead_stepLine options.style (hcomplete step hmem)
    have hempty : scenario.steps.isEmpty = false := by
      simpa using List.ne_nil_of_mem hmem
    refine ⟨stepLine options.style step, ?_, hread, ?_⟩
    · rw [stepLines, hempty]
      simp [hstep]
    · rw [hread, map_codeUnits_eq_iff]

theorem compile_searchScenario_arguments :
    ∃ artifact lines line, compile searchScenario .standard [] = .ok artifact ∧
      artifact.expanded? = some lines ∧ lines[4]? = some line ∧
      argumentsRead line = [some (Text.ofString "#query"), some (Text.ofString "second")] := by
  have hok : compile searchScenario .standard [] =
      .ok (ofScenario searchScenario .standard []).artifact := by rfl
  obtain ⟨-, -, lines, hlines, hsteps⟩ := compile_arguments_denoted hok
  obtain ⟨line, hline, hread, -⟩ := hsteps 4 _ rfl
  exact ⟨_, lines, line, hok, hlines, hline, hread.trans (by decide)⟩

/-- A face has a number above 0xFFFF, and is read as two surrogates. -/
theorem codeLiteral_face_denotes_surrogates :
    Text.denoted? (Text.codeLiteral "😀") = some [.surrogate 0x3D, .surrogate 0x600] ∧
      Text.denoted? (Text.codeLiteral "😀") ≠ some "😀" := by
  decide

end Suite

end PageScript
