import PageScript.Proofs.StepArguments
import PageScript.Proofs.ValidatedScenarios

namespace PageScript

namespace Suite

/-- Whether the names of the suite of a scenario can be made: no text that they are
made of has a surrogate in it. -/
def HasNames (scenario : Scenario) (options : Options) : Prop :=
  ∀ text ∈ namedTexts scenario options, ∀ c ∈ text, c.isSurrogate = false

instance (scenario : Scenario) (options : Options) : Decidable (HasNames scenario options) :=
  inferInstanceAs (Decidable (∀ text ∈ namedTexts scenario options, ∀ c ∈ text, _))

/-- Whether compiling a scenario lets a run go on. -/
def IsContained (scenario : Scenario) (options : Options) : Prop :=
  scenario.stepsLackingData ≠ [] ∨ HasNames scenario options

theorem findSome?_unencodable?_eq_none_iff (scenario : Scenario) (options : Options) :
    (namedTexts scenario options).findSome? Text.unencodable? = none ↔
      HasNames scenario options := by
  simp only [List.findSome?_eq_none_iff, Text.unencodable?, Text.unencodableFrom?_eq_none_iff,
    HasNames]

/-- What keeps a scenario from being compiled: the data that is missing, or else a text
that makes no name, or else the first pause that is too long. -/
theorem compileError?_eq_cases (scenario : Scenario) (options : Options) :
    (scenario.stepsLackingData ≠ [] ∧ compileError? scenario options =
      some (.lacksData scenario.name scenario.stepsLackingData)) ∨
    (scenario.stepsLackingData = [] ∧ ¬ HasNames scenario options ∧
      ∃ found, compileError? scenario options = some (.noName found)) ∨
    (scenario.stepsLackingData = [] ∧ HasNames scenario options ∧
      compileError? scenario options =
        (scenario.steps.findSome? excessDigits?).map CompileError.pauseTooLong) := by
  rw [← findSome?_unencodable?_eq_none_iff]
  unfold compileError?
  cases hlacking : scenario.stepsLackingData with
  | cons place places => exact Or.inl ⟨List.cons_ne_nil _ _, rfl⟩
  | nil =>
      cases (namedTexts scenario options).findSome? Text.unencodable? with
      | some found => exact Or.inr (Or.inl ⟨rfl, nofun, found, rfl⟩)
      | none => exact Or.inr (Or.inr ⟨rfl, rfl, rfl⟩)

/-- Why a scenario is not compiled whose pauses are not too long. -/
theorem compileError?_cases {scenario : Scenario} (options : Options)
    (hdigits : ∀ step ∈ scenario.steps, excessDigits? step = none) :
    (IsContained scenario options ∧ (compileError? scenario options = none ∨
      compileError? scenario options =
        some (.lacksData scenario.name scenario.stepsLackingData))) ∨
      ¬ IsContained scenario options ∧
        ∃ found, compileError? scenario options = some (.noName found) := by
  rcases compileError?_eq_cases scenario options with
    ⟨hlacking, herror⟩ | ⟨hcomplete, hnames, hfound⟩ | ⟨hcomplete, hnames, herror⟩
  · exact Or.inl ⟨Or.inl hlacking, Or.inr herror⟩
  · exact Or.inr ⟨fun h => h.elim (fun hlacking => hlacking hcomplete) hnames, hfound⟩
  · rw [List.findSome?_eq_none_iff.mpr hdigits] at herror
    exact Or.inl ⟨Or.inr hnames, Or.inl herror⟩

theorem isContained_congr {scenario other : Scenario} (options : Options)
    (hname : other.name = scenario.name) (hid : other.id = scenario.id)
    (hlacking : other.stepsLackingData = scenario.stepsLackingData) :
    IsContained other options ↔ IsContained scenario options := by
  rw [IsContained, IsContained, hlacking, HasNames, HasNames, namedTexts, namedTexts, hname, hid]

end Suite

theorem placesFrom_zipWith {α β : Type} (p : α → Bool) {f : α → β → α}
    (hf : ∀ a b, p (f a b) = p a) (i : Nat) {items : List α} {others : List β}
    (hlength : others.length = items.length) :
    placesFrom p i (items.zipWith f others) = placesFrom p i items := by
  induction items generalizing i others with
  | nil => simp
  | cons item items ih =>
      cases others with
      | nil => exact absurd hlength (by simp)
      | cons other others =>
          have hrest := ih (i + 1) (Nat.succ.inj hlength)
          rw [List.zipWith_cons_cons, placesFrom, placesFrom, hf, hrest]

namespace Report.IsFor

variable {scenario : Scenario} {report : Report}

theorem isContained_iff (h : report.IsFor scenario) (options : Suite.Options) :
    Suite.IsContained report.scenario options ↔ Suite.IsContained scenario options := by
  have hplaces := placesFrom_zipWith Step.lacksData
    (f := fun step (outcome : Outcome) => { step with target := outcome.finalTarget })
    (fun _ _ => rfl) 0 h.length
  rw [h.scenario_eq]
  exact Suite.isContained_congr options rfl rfl hplaces

theorem excessDigits?_eq_none (h : report.IsFor scenario)
    (hdigits : ∀ step ∈ scenario.steps, Suite.excessDigits? step = none) :
    ∀ step ∈ report.scenario.steps, Suite.excessDigits? step = none := by
  intro step hstep
  rw [h.scenario_eq] at hstep
  obtain ⟨i, hi⟩ := List.mem_iff_getElem?.mp hstep
  obtain ⟨draft, outcome, hdraft, houtcome, rfl⟩ := List.getElem?_zipWith_eq_some.mp hi
  obtain ⟨found, hfound, htarget⟩ := h.finalTarget i draft hdraft
  obtain rfl := Option.some.inj (hfound.symm.trans houtcome)
  exact Resolution.excessDigits?_of_isFinalTarget htarget
    (hdigits draft (List.mem_of_getElem? hdraft))

end Report.IsFor

namespace Run

open Routine

variable {σ η : Type} {plan : Plan σ η}

def isInputError (error : StageError) : Bool := error.kind == "CompilationInputError"

/-- What the output at a place among some adds to the compilations of a run. -/
def compilation? (plan : Plan σ η) (runId : Text) (total index : Nat) (output : Output) :
    Option Compilation :=
  match Suite.compile output.scenario (optionsFor plan.options index total) output.outcomes with
  | .ok artifact =>
      some ⟨runId, Suite.Outline.ofScenario output.scenario artifact.suiteId, artifact⟩
  | .error _ => none

/-- The entry for the output at a place among some, if its scenario lacks data. -/
def inputError? (plan : Plan σ η) (total index : Nat) (output : Output) : Option StageError :=
  match Suite.compile output.scenario (optionsFor plan.options index total) output.outcomes with
  | .error (.lacksData name steps) =>
      some ⟨"compilation", "CompilationInputError",
        (Suite.CompileError.lacksData name steps).message, some output.scenario.id⟩
  | _ => none

/-- Why the output at a place among some ends the run, if it does. -/
def fatalError? (plan : Plan σ η) (total index : Nat) (output : Output) :
    Option Suite.CompileError :=
  match Suite.compile output.scenario (optionsFor plan.options index total) output.outcomes with
  | .error (.lacksData _ _) => none
  | .error error => some error
  | .ok _ => none

theorem isInputError_of_inputError? {total index : Nat} {output : Output} {error : StageError}
    (herror : error ∈ (inputError? plan total index output).toList) :
    isInputError error = true := by
  unfold inputError? at herror
  split at herror
  · obtain rfl := List.mem_singleton.mp herror
    rfl
  · exact absurd herror List.not_mem_nil

/-- What was compiled before, in front of what becomes of the scenarios behind. -/
def withEarlier (earlier : List Compilation × List StageError) :
    Except Error (List Compilation × List StageError) × σ →
      Except Error (List Compilation × List StageError) × σ :=
  Prod.map (Except.map fun later => (earlier.1 ++ later.1, earlier.2 ++ later.2)) id

/-- One step of compiling outputs: the run asks whether it is cancelled, and if it is
not, it compiles the next output and goes on unless that ends it. -/
theorem result_compileAll_step (plan : Plan σ η) (runId : Text) (total index : Nat)
    (output : Output) (rest : List Output) (s : σ) :
    (compileAll plan runId total index (output :: rest) s).result =
      if plan.isCancelled (plan.meanwhile s) then
        .ok (.ok ([], [cancellation runId "compilation"]), plan.meanwhile s)
      else match fatalError? plan total index output with
        | some error => .ok (.error (.compilation error), plan.meanwhile s)
        | none =>
            (compileAll plan runId total (index + 1) rest (plan.meanwhile s)).result.map
              (withEarlier ((compilation? plan runId total index output).toList,
                (inputError? plan total index output).toList)) := by
  rw [compileAll, result_bind, result_poll]
  unfold fatalError? compilation? inputError?
  cases plan.isCancelled (plan.meanwhile s) with
  | true => rfl
  | false =>
      simp only [Bool.false_eq_true, if_false]
      cases Suite.compile output.scenario (optionsFor plan.options index total)
          output.outcomes with
      | ok artifact =>
          refine (result_bind (compileAll plan runId total (index + 1) rest) _
            (plan.meanwhile s)).trans ?_
          rcases (compileAll plan runId total (index + 1) rest (plan.meanwhile s)).result with
            stopped | ⟨error | later, ended⟩ <;> rfl
      | error error =>
          cases error with
          | lacksData name steps =>
              refine (result_bind (compileAll plan runId total (index + 1) rest) _
                (plan.meanwhile s)).trans ?_
              rcases (compileAll plan runId total (index + 1) rest (plan.meanwhile s)).result with
                stopped | ⟨error | later, ended⟩ <;> rfl
          | noName found => rfl
          | pauseTooLong count => rfl

/-- How compiling outputs comes to an end: at a check that finds the run cancelled, at
the first output, or where it does for the outputs behind that. -/
theorem compileAll_cons_cases {runId : Text} {total index : Nat} {output : Output}
    {rest : List Output} {s t : σ} {ended : Except Error (List Compilation × List StageError)}
    (h : (compileAll plan runId total index (output :: rest) s).result = .ok (ended, t)) :
    ended = .ok ([], [cancellation runId "compilation"]) ∨
    (∃ error, ended = .error (.compilation error)) ∨
    ∃ later, fatalError? plan total index output = none ∧
      (compileAll plan runId total (index + 1) rest (plan.meanwhile s)).result =
        .ok (later, t) ∧
      ended = later.map fun found =>
        ((compilation? plan runId total index output).toList ++ found.1,
          (inputError? plan total index output).toList ++ found.2) := by
  rw [result_compileAll_step] at h
  split at h
  · exact Or.inl (Prod.mk.inj (Except.ok.inj h)).1.symm
  · split at h
    · exact Or.inr (Or.inl ⟨_, (Prod.mk.inj (Except.ok.inj h)).1.symm⟩)
    · rename_i hgoes
      cases hrest : (compileAll plan runId total (index + 1) rest (plan.meanwhile s)).result with
      | error stopped =>
          rw [hrest] at h
          exact absurd h (by simp [Except.map])
      | ok found =>
          obtain ⟨later, after⟩ := found
          rw [hrest] at h
          obtain ⟨rfl, rfl⟩ := Prod.mk.inj (Except.ok.inj h)
          exact Or.inr (Or.inr ⟨later, hgoes, rfl, rfl⟩)

theorem fatalError?_eq_none_iff {total index : Nat} {output : Output} :
    fatalError? plan total index output = none ↔
      output.scenario.stepsLackingData ≠ [] ∨
        Suite.HasNames output.scenario (optionsFor plan.options index total) ∧
          output.scenario.steps.findSome? Suite.excessDigits? = none := by
  unfold fatalError? Suite.compile
  rcases Suite.compileError?_eq_cases output.scenario (optionsFor plan.options index total) with
    ⟨hlacking, herror⟩ | ⟨hcomplete, hnames, found, herror⟩ | ⟨hcomplete, hnames, herror⟩
  · simp [herror, hlacking]
  · simp [herror, hcomplete, hnames]
  · rw [herror]
    cases output.scenario.steps.findSome? Suite.excessDigits? <;> simp [hcomplete, hnames]

/-- An output ends the run if its scenario makes no name. -/
theorem fatalError?_cases (plan : Plan σ η) (total index : Nat) {output : Output}
    (hdigits : ∀ step ∈ output.scenario.steps, Suite.excessDigits? step = none) :
    (Suite.IsContained output.scenario (optionsFor plan.options index total) ∧
      fatalError? plan total index output = none) ∨
    ¬ Suite.IsContained output.scenario (optionsFor plan.options index total) ∧
      ∃ found, fatalError? plan total index output = some (.noName found) := by
  unfold fatalError? Suite.compile
  rcases Suite.compileError?_cases (optionsFor plan.options index total) hdigits with
    ⟨hcontained, hnone | hlacks⟩ | ⟨hnot, found, hfound⟩
  · exact Or.inl ⟨hcontained, by rw [hnone]⟩
  · exact Or.inl ⟨hcontained, by rw [hlacks]⟩
  · exact Or.inr ⟨hnot, found, by rw [hfound]⟩

/-- How the compilation of outputs ends: with what can be compiled, or at the first
scenario that makes no name. -/
theorem result_compileAll (runId : Text) (total index : Nat) (outputs : List Output) {s : σ}
    (hpoll : (plan.poll s).result = .ok (false, s))
    (hdigits : ∀ output ∈ outputs, ∀ step ∈ output.scenario.steps,
      Suite.excessDigits? step = none) :
    ((∀ (i : Nat) output, outputs[i]? = some output →
        Suite.IsContained output.scenario (optionsFor plan.options (index + i) total)) ∧
      ∃ compilations errors,
        (compileAll plan runId total index outputs s).result =
          .ok (.ok (compilations, errors), s) ∧
        ∀ error ∈ errors, isInputError error = true) ∨
    ((∃ (i : Nat) (output : Output), outputs[i]? = some output ∧
        ¬ Suite.IsContained output.scenario (optionsFor plan.options (index + i) total)) ∧
      ∃ found, (compileAll plan runId total index outputs s).result =
        .ok (.error (.compilation (.noName found)), s)) := by
  obtain ⟨hfree, hsame⟩ : plan.isCancelled (plan.meanwhile s) = false ∧ plan.meanwhile s = s := by
    simpa only [result_poll, Except.ok.injEq, Prod.mk.injEq] using hpoll
  induction outputs generalizing index with
  | nil => exact Or.inl ⟨by simp, [], [], rfl, by simp⟩
  | cons output rest ih =>
      rw [List.forall_mem_cons] at hdigits
      have hstep := result_compileAll_step plan runId total index output rest s
      rw [hfree, hsame, if_neg (by decide)] at hstep
      rcases fatalError?_cases plan total index hdigits.1 with
        ⟨hcontained, hnone⟩ | ⟨hnot, found, hfound⟩
      · rw [hnone] at hstep
        rcases ih (index + 1) hdigits.2 with
          ⟨hall, compilations, errors, hrest, herrors⟩ | ⟨⟨i, other, hother, hnot⟩, found, hrest⟩
        · refine Or.inl ⟨?_, (compilation? plan runId total index output).toList ++ compilations,
            (inputError? plan total index output).toList ++ errors, ?_,
            List.forall_mem_append.mpr ⟨fun _ => isInputError_of_inputError?, herrors⟩⟩
          · intro i other hother
            cases i with
            | zero =>
                obtain rfl := Option.some.inj hother
                exact hcontained
            | succ i =>
                have hlater := hall i other hother
                rwa [Nat.add_right_comm] at hlater
          · rw [hstep, hrest]
            rfl
        · refine Or.inr ⟨⟨i + 1, other, hother, ?_⟩, found, ?_⟩
          · rwa [← Nat.add_assoc, Nat.add_right_comm]
          · rw [hstep, hrest]
            rfl
      · rw [hfound] at hstep
        exact Or.inr ⟨⟨0, output, rfl, hnot⟩, found, hstep⟩

end Run

end PageScript
