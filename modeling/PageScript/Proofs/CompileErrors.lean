import PageScript.Proofs.CompiledScenarios

namespace PageScript

theorem mem_placesFrom_iff {α : Type} {p : α → Bool} {i place : Nat} {items : List α} :
    place ∈ placesFrom p i items ↔
      ∃ k item, place = i + k ∧ items[k]? = some item ∧ p item = true := by
  induction items generalizing i with
  | nil => simp [placesFrom]
  | cons item items ih =>
      have hlater : place ∈ placesFrom p (i + 1) items ↔
          ∃ k other, place = i + (k + 1) ∧ items[k]? = some other ∧ p other = true := by
        simp only [ih, Nat.add_right_comm i 1, Nat.add_assoc]
      have hsplit : place ∈ placesFrom p i (item :: items) ↔
          (place = i ∧ p item = true) ∨ place ∈ placesFrom p (i + 1) items := by
        rw [placesFrom]
        cases p item <;> simp
      rw [hsplit, hlater]
      constructor
      · rintro (⟨rfl, hitem⟩ | ⟨k, other, rfl, hother, hp⟩)
        · exact ⟨0, item, rfl, rfl, hitem⟩
        · exact ⟨k + 1, other, rfl, hother, hp⟩
      · rintro ⟨k, other, rfl, hother, hp⟩
        cases k with
        | zero =>
            obtain rfl := Option.some.inj hother
            exact .inl ⟨rfl, hp⟩
        | succ k => exact .inr ⟨k, other, rfl, hother, hp⟩

theorem pairwise_placesFrom {α : Type} (p : α → Bool) (i : Nat) (items : List α) :
    (placesFrom p i items).Pairwise (· < ·) := by
  induction items generalizing i with
  | nil => exact .nil
  | cons item items ih =>
      rw [placesFrom]
      split
      · refine List.pairwise_cons.mpr ⟨fun place hplace => ?_, ih (i + 1)⟩
        obtain ⟨k, -, rfl, -⟩ := mem_placesFrom_iff.mp hplace
        omega
      · exact ih (i + 1)

theorem Step.lacksData_iff {step : Step} :
    step.lacksData = true ↔ step.action ∈ [.fill, .type, .select] ∧ step.data? = none := by
  unfold Step.lacksData Step.needsData
  rw [Bool.and_eq_true, Option.isNone_iff_eq_none]
  cases step.action <;> simp [Action.needsData]

namespace Suite

variable {scenario : Scenario} {options : Options} {outcomes : List Outcome}

theorem excessDigits?_eq_some_iff {step : Step} {count : Nat} :
    excessDigits? step = some count ↔ step.action = .wait ∧ ∃ digits,
      step.targetDigits? = some digits ∧ digits.length = count ∧ Text.maxDigits < count := by
  unfold excessDigits?
  by_cases hwait : step.action = .wait
  · cases htarget : step.targetDigits? with
    | none => simp [hwait]
    | some digits =>
        simp only [hwait, beq_self_eq_true, if_true, Option.map_some, Option.filter_some,
          Option.some.injEq, true_and, exists_eq_left', decide_eq_true_eq]
        constructor
        · intro h
          split at h
          · obtain rfl := Option.some.inj h
            exact ⟨rfl, by assumption⟩
          · exact absurd h nofun
        · rintro ⟨rfl, hexcess⟩
          exact if_pos hexcess
  · simp [hwait]

theorem excessDigits?_eq_none_iff {step : Step} :
    excessDigits? step = none ↔ (step.action = .wait →
      ∀ digits, step.targetDigits? = some digits → digits.length ≤ Text.maxDigits) := by
  rw [Option.eq_none_iff_forall_ne_some]
  constructor
  · intro h hwait digits htarget
    by_contra hexcess
    have hlong := Nat.lt_of_not_le hexcess
    exact h _ (excessDigits?_eq_some_iff.mpr ⟨hwait, digits, htarget, rfl, hlong⟩)
  · intro h count hcount
    obtain ⟨hwait, digits, htarget, rfl, hexcess⟩ := excessDigits?_eq_some_iff.mp hcount
    exact absurd (h hwait digits htarget) (Nat.not_le.mpr hexcess)

theorem compile_eq_error_iff {error : CompileError} :
    compile scenario options outcomes = .error error ↔
      compileError? scenario options = some error := by
  unfold compile
  split
  · rename_i found hfound
    rw [hfound, Except.error.injEq, Option.some.injEq]
  · rename_i hnone
    simp [hnone]

theorem compile_isOk_iff :
    (∃ artifact, compile scenario options outcomes = .ok artifact) ↔
      compileError? scenario options = none := by
  constructor
  · rintro ⟨artifact, hartifact⟩
    exact (compile_eq_ok_iff.mp hartifact).1
  · intro hnone
    exact ⟨_, compile_eq_ok_iff.mpr ⟨hnone, rfl⟩⟩

theorem compileError?_eq_lacksData_iff {name : Text} {places : List Nat} :
    compileError? scenario options = some (.lacksData name places) ↔
      places ≠ [] ∧ name = scenario.name ∧ places = scenario.stepsLackingData := by
  have hcomplete (h : scenario.stepsLackingData = []) :
      ¬ (places ≠ [] ∧ name = scenario.name ∧ places = scenario.stepsLackingData) :=
    fun hplaces => hplaces.1 (hplaces.2.2.trans h)
  rcases compileError?_eq_cases scenario options with
    ⟨hlacking, herror⟩ | ⟨h, -, found, herror⟩ | ⟨h, -, herror⟩
  · rw [herror, Option.some.injEq, CompileError.lacksData.injEq]
    constructor
    · rintro ⟨rfl, rfl⟩
      exact ⟨hlacking, rfl, rfl⟩
    · rintro ⟨-, rfl, rfl⟩
      exact ⟨rfl, rfl⟩
  · simp [herror, hcomplete h]
  · simp [herror, hcomplete h, -List.map_findSome?]

theorem exists_compileError?_eq_noName_iff :
    (∃ found, compileError? scenario options = some (.noName found)) ↔
      scenario.stepsLackingData = [] ∧ ¬ HasNames scenario options := by
  rcases compileError?_eq_cases scenario options with
    ⟨h, herror⟩ | ⟨h, hnames, found, herror⟩ | ⟨h, hnames, herror⟩
  · simp [herror, h]
  · simp [herror, h, hnames]
  · simp [herror, hnames, -List.map_findSome?]

theorem compileError?_eq_pauseTooLong_iff {count : Nat} :
    compileError? scenario options = some (.pauseTooLong count) ↔
      scenario.stepsLackingData = [] ∧ HasNames scenario options ∧
        scenario.steps.findSome? excessDigits? = some count := by
  rcases compileError?_eq_cases scenario options with
    ⟨h, herror⟩ | ⟨h, hnames, found, herror⟩ | ⟨h, hnames, herror⟩
  · simp [herror, h]
  · simp [herror, hnames]
  · simp [herror, h, hnames, -List.map_findSome?]

theorem compileError?_eq_none_iff :
    compileError? scenario options = none ↔
      scenario.stepsLackingData = [] ∧ HasNames scenario options ∧
        scenario.steps.findSome? excessDigits? = none := by
  rcases compileError?_eq_cases scenario options with
    ⟨h, herror⟩ | ⟨h, hnames, found, herror⟩ | ⟨h, hnames, herror⟩
  · simp [herror, h]
  · simp [herror, hnames]
  · simp [herror, h, hnames, -List.map_findSome?]

/-- A scenario is compiled if, and only if, no step lacks data, its names can be made,
and no pause has more digits than are read.  What is told otherwise is the first of
these that fails; missing data is told with the places of all the steps that lack it. -/
theorem compile_fails_iff (scenario : Scenario) (options : Options) (outcomes : List Outcome) :
    (scenario.stepsLackingData.Pairwise (· < ·) ∧ ∀ i, i ∈ scenario.stepsLackingData ↔
      ∃ step, scenario.steps[i]? = some step ∧ step.action ∈ [.fill, .type, .select] ∧
        step.data? = none) ∧
    (∀ name places, compile scenario options outcomes = .error (.lacksData name places) ↔
      places ≠ [] ∧ name = scenario.name ∧ places = scenario.stepsLackingData) ∧
    ((∃ found, compile scenario options outcomes = .error (.noName found)) ↔
      scenario.stepsLackingData = [] ∧ ¬ HasNames scenario options) ∧
    (∀ count, compile scenario options outcomes = .error (.pauseTooLong count) ↔
      scenario.stepsLackingData = [] ∧ HasNames scenario options ∧
        ∃ earlier step later, scenario.steps = earlier ++ step :: later ∧
          (∀ other ∈ earlier, excessDigits? other = none) ∧ step.action = .wait ∧
          ∃ digits, step.targetDigits? = some digits ∧ digits.length = count ∧ 4300 < count) ∧
    ((∃ artifact, compile scenario options outcomes = .ok artifact) ↔
      scenario.stepsLackingData = [] ∧ HasNames scenario options ∧
        ∀ step ∈ scenario.steps, step.action = .wait →
          ∀ digits, step.targetDigits? = some digits → digits.length ≤ 4300) := by
  refine ⟨⟨pairwise_placesFrom _ _ _, fun i => ?_⟩, fun name places => ?_, ?_, fun count => ?_, ?_⟩
  · rw [Scenario.stepsLackingData, mem_placesFrom_iff]
    simp only [Nat.zero_add, Step.lacksData_iff]
    constructor
    · rintro ⟨k, step, rfl, hstep, hlacks⟩
      exact ⟨step, hstep, hlacks⟩
    · rintro ⟨step, hstep, hlacks⟩
      exact ⟨i, step, rfl, hstep, hlacks⟩
  · rw [compile_eq_error_iff, compileError?_eq_lacksData_iff]
  · simp only [compile_eq_error_iff]
    exact exists_compileError?_eq_noName_iff
  · rw [compile_eq_error_iff, compileError?_eq_pauseTooLong_iff, List.findSome?_eq_some_iff]
    constructor
    · rintro ⟨hcomplete, hnames, earlier, step, later, hsteps, hstep, hearlier⟩
      exact ⟨hcomplete, hnames, earlier, step, later, hsteps, hearlier,
        excessDigits?_eq_some_iff.mp hstep⟩
    · rintro ⟨hcomplete, hnames, earlier, step, later, hsteps, hearlier, hstep⟩
      exact ⟨hcomplete, hnames, earlier, step, later, hsteps,
        excessDigits?_eq_some_iff.mpr hstep, hearlier⟩
  · rw [compile_isOk_iff, compileError?_eq_none_iff, List.findSome?_eq_none_iff]
    refine and_congr_right fun _ => and_congr_right fun _ => forall₂_congr fun step _ => ?_
    exact excessDigits?_eq_none_iff

/-- A scenario whose only step is a pause of 4301 digits. -/
def longPauseScenario : Scenario where
  id := "s-1"
  name := "pause"
  description? := none
  steps := [⟨.wait, List.replicate 4301 '1', none, ""⟩]
  tags := []

/-- A pause whose duration has too many digits keeps its scenario from being compiled. -/
theorem compile_longPauseScenario_fails :
    longPauseScenario.stepsLackingData = [] ∧
      compile longPauseScenario { Options.standard with pageObjects := false } [] =
        .error (.pauseTooLong 4301) :=
  ⟨rfl, compile_eq_error_iff.mpr (by decide +kernel)⟩

end Suite

end PageScript
