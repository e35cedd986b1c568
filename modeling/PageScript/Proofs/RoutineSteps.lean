import PageScript.Routine

namespace PageScript

theorem bind_eq_ok {ε α β : Type} {first : Except ε α} {next : α → Except ε β} {b : β}
    (h : (first >>= next) = .ok b) : ∃ a, first = .ok a ∧ next a = .ok b := by
  cases first with
  | error problem => exact absurd h (by simp [Bind.bind, Except.bind])
  | ok a => exact ⟨a, rfl, h⟩

theorem map_eq_ok {ε α β : Type} {ended : Except ε α} {f : α → β} {b : β}
    (h : ended.map f = .ok b) : ∃ a, ended = .ok a ∧ f a = b := by
  cases ended with
  | error problem => exact absurd h nofun
  | ok a => exact ⟨a, rfl, Except.ok.inj h⟩

theorem bind_eq_error {ε α β : Type} {first : Except ε α} {next : α → Except ε β} {problem : ε}
    (h : (first >>= next) = .error problem) :
    first = .error problem ∨ ∃ a, first = .ok a ∧ next a = .error problem := by
  cases first with
  | error found =>
      obtain rfl : found = problem := Except.error.inj h
      exact Or.inl rfl
  | ok a => exact Or.inr ⟨a, rfl, h⟩

/-- Where a routine stops that ends without a value. -/
structure Stopped (σ : Type) where
  fault : Fault
  state : σ

/-- What a routine leaves behind besides its log. -/
def Done.result {σ α : Type} (ended : Done σ α) : Except (Stopped σ) (α × σ) :=
  match ended.value with
  | .ok a => .ok (a, ended.state)
  | .error fault => .error ⟨fault, ended.state⟩

theorem Done.result_eq_ok_iff {σ α : Type} {ended : Done σ α} {a : α} {s : σ} :
    ended.result = .ok (a, s) ↔ ended.value = .ok a ∧ ended.state = s := by
  unfold Done.result
  cases ended.value <;> simp

theorem Done.result_eq_error_iff {σ α : Type} {ended : Done σ α} {stopped : Stopped σ} :
    ended.result = .error stopped ↔
      ended.value = .error stopped.fault ∧ ended.state = stopped.state := by
  rcases stopped with ⟨fault, s⟩
  unfold Done.result
  cases ended.value <;> simp

namespace Routine

variable {σ α β : Type}

theorem bind_of_ok {first : Routine σ α} {next : α → Routine σ β} {s : σ} {a : α}
    (h : (first s).value = .ok a) :
    (first >>= next) s =
      ⟨(next a (first s).state).value, (next a (first s).state).state,
        (first s).log ++ (next a (first s).state).log⟩ := by
  simp only [bind_eq, andThen, h]

theorem bind_of_error {first : Routine σ α} {next : α → Routine σ β} {s : σ} {fault : Fault}
    (h : (first s).value = .error fault) :
    (first >>= next) s = ⟨.error fault, (first s).state, (first s).log⟩ := by
  simp only [bind_eq, andThen, h]

@[simp] theorem result_pure (a : α) (s : σ) : ((pure a : Routine σ α) s).result = .ok (a, s) := rfl

@[simp] theorem result_log (level : LogLevel) (message : Text) (s : σ) :
    (log level message s).result = .ok ((), s) := rfl

/-- Without their logs, routines follow one another like steps that may fail. -/
theorem result_bind (first : Routine σ α) (next : α → Routine σ β) (s : σ) :
    ((first >>= next) s).result =
      (first s).result >>= fun ended => (next ended.1 ended.2).result := by
  cases h : (first s).value with
  | ok a =>
      have hfirst : (first s).result = .ok (a, (first s).state) :=
        Done.result_eq_ok_iff.mpr ⟨h, rfl⟩
      rw [bind_of_ok h, hfirst]
      rfl
  | error fault =>
      have hfirst : (first s).result = .error ⟨fault, (first s).state⟩ :=
        Done.result_eq_error_iff.mpr ⟨h, rfl⟩
      rw [bind_of_error h, hfirst]
      rfl

theorem result_bind_of_ok {first : Routine σ α} {next : α → Routine σ β} {s t : σ} {a : α}
    (h : (first s).result = .ok (a, t)) : ((first >>= next) s).result = (next a t).result := by
  rw [result_bind, h]
  rfl

theorem result_bind_eq_ok {first : Routine σ α} {next : α → Routine σ β} {s u : σ} {b : β}
    (h : ((first >>= next) s).result = .ok (b, u)) :
    ∃ a t, (first s).result = .ok (a, t) ∧ (next a t).result = .ok (b, u) := by
  rw [result_bind] at h
  obtain ⟨⟨a, t⟩, hfirst, hnext⟩ := bind_eq_ok h
  exact ⟨a, t, hfirst, hnext⟩

theorem value_cases (ended : Except Fault α) :
    (∃ a, ended = .ok a) ∨ (∃ failure, ended = .error (.failure failure)) ∨
      ∃ message, ended = .error (.interrupt message) := by
  cases ended with
  | ok a => exact Or.inl ⟨a, rfl⟩
  | error fault =>
      cases fault with
      | failure failure => exact Or.inr (Or.inl ⟨failure, rfl⟩)
      | interrupt message => exact Or.inr (Or.inr ⟨message, rfl⟩)

theorem outcome_of_ok {routine : Routine σ α} {s : σ} {a : α} (h : (routine s).value = .ok a) :
    routine.outcome s = ⟨.ok (.ok a), (routine s).state, (routine s).log⟩ := by
  simp only [outcome, h]

theorem outcome_of_failure {routine : Routine σ α} {s : σ} {failure : Failure}
    (h : (routine s).value = .error (.failure failure)) :
    routine.outcome s = ⟨.ok (.error failure), (routine s).state, (routine s).log⟩ := by
  simp only [outcome, h]

theorem outcome_of_interrupt {routine : Routine σ α} {s : σ} {message : Text}
    (h : (routine s).value = .error (.interrupt message)) :
    routine.outcome s = ⟨.error (.interrupt message), (routine s).state, (routine s).log⟩ := by
  simp only [outcome, h]

@[simp] theorem outcome_state (routine : Routine σ α) (s : σ) :
    (routine.outcome s).state = (routine s).state := by
  rcases value_cases (routine s).value with ⟨a, h⟩ | ⟨failure, h⟩ | ⟨message, h⟩
  · rw [outcome_of_ok h]
  · rw [outcome_of_failure h]
  · rw [outcome_of_interrupt h]

@[simp] theorem outcome_log (routine : Routine σ α) (s : σ) :
    (routine.outcome s).log = (routine s).log := by
  rcases value_cases (routine s).value with ⟨a, h⟩ | ⟨failure, h⟩ | ⟨message, h⟩
  · rw [outcome_of_ok h]
  · rw [outcome_of_failure h]
  · rw [outcome_of_interrupt h]

theorem value_of_outcome_eq_ok {routine : Routine σ α} {s : σ} {ended : Except Failure α}
    (h : (routine.outcome s).value = .ok ended) :
    (routine s).value = ended.mapError Fault.failure := by
  rcases value_cases (routine s).value with ⟨a, hvalue⟩ | ⟨failure, hvalue⟩ | ⟨message, hvalue⟩
  · rw [outcome_of_ok hvalue] at h
    rw [hvalue, ← Except.ok.inj h]
    rfl
  · rw [outcome_of_failure hvalue] at h
    rw [hvalue, ← Except.ok.inj h]
    rfl
  · rw [outcome_of_interrupt hvalue] at h
    exact absurd h nofun

theorem value_of_outcome_eq_error {routine : Routine σ α} {s : σ} {fault : Fault}
    (h : (routine.outcome s).value = .error fault) :
    (routine s).value = .error fault ∧ ∃ message, fault = .interrupt message := by
  rcases value_cases (routine s).value with ⟨a, hvalue⟩ | ⟨failure, hvalue⟩ | ⟨message, hvalue⟩
  · rw [outcome_of_ok hvalue] at h
    exact absurd h nofun
  · rw [outcome_of_failure hvalue] at h
    exact absurd h nofun
  · rw [outcome_of_interrupt hvalue] at h
    obtain rfl := Except.error.inj h
    exact ⟨hvalue, message, rfl⟩

/-- The outcome of a routine has its failure for a value. -/
theorem result_outcome (routine : Routine σ α) (s : σ) :
    (routine.outcome s).result =
      match (routine s).result with
      | .ok (a, ended) => .ok (.ok a, ended)
      | .error ⟨.failure failure, ended⟩ => .ok (.error failure, ended)
      | .error stopped => .error stopped := by
  rcases value_cases (routine s).value with ⟨a, h⟩ | ⟨failure, h⟩ | ⟨message, h⟩
  · simp [outcome_of_ok h, Done.result, h]
  · simp [outcome_of_failure h, Done.result, h]
  · simp [outcome_of_interrupt h, Done.result, h]

theorem value_bind_eq_ok {first : Routine σ α} {next : α → Routine σ β} {s : σ} {b : β}
    (h : ((first >>= next) s).value = .ok b) :
    ∃ a, (first s).value = .ok a ∧ (next a (first s).state).value = .ok b := by
  cases hfirst : (first s).value with
  | ok a =>
      rw [bind_of_ok hfirst] at h
      exact ⟨a, rfl, h⟩
  | error fault =>
      rw [bind_of_error hfirst] at h
      exact nomatch h

theorem value_bind_eq_error {first : Routine σ α} {next : α → Routine σ β} {s : σ} {fault : Fault}
    (h : ((first >>= next) s).value = .error fault) :
    (first s).value = .error fault ∨
      ∃ a, (first s).value = .ok a ∧ (next a (first s).state).value = .error fault := by
  cases hfirst : (first s).value with
  | ok a =>
      rw [bind_of_ok hfirst] at h
      exact Or.inr ⟨a, rfl, h⟩
  | error found =>
      rw [bind_of_error hfirst] at h
      obtain rfl := Except.error.inj h
      exact Or.inl rfl

theorem state_bind {I : σ → Prop} {first : Routine σ α} {next : α → Routine σ β} {s : σ}
    (hfirst : I (first s).state)
    (hnext : ∀ a, (first s).value = .ok a → I (next a (first s).state).state) :
    I ((first >>= next) s).state := by
  cases h : (first s).value with
  | ok a =>
      rw [bind_of_ok h]
      exact hnext a h
  | error fault =>
      rw [bind_of_error h]
      exact hfirst

/-- The cleanup is done after the routine, and a fault of it outranks how that ended. -/
theorem finally_eq (routine : Routine σ α) (cleanup : Routine σ Unit) (s : σ) :
    routine.finally_ cleanup s =
      ⟨(cleanup (routine s).state).value.bind fun _ => (routine s).value,
        (cleanup (routine s).state).state,
        (routine s).log ++ (cleanup (routine s).state).log⟩ := by
  cases hcleanup : (cleanup (routine s).state).value <;> cases hvalue : (routine s).value <;>
    simp [finally_, andThen, attempt, done, stop, hcleanup, hvalue, Except.bind]

theorem finally_of_ok {routine : Routine σ α} {cleanup : Routine σ Unit} {s : σ}
    (h : (cleanup (routine s).state).value = .ok ()) :
    (routine.finally_ cleanup s).value = (routine s).value ∧
      (routine.finally_ cleanup s).state = (cleanup (routine s).state).state := by
  rw [finally_eq, h]
  exact ⟨rfl, rfl⟩

section Calm

/-- In the states of `I`, the routine leads to none that is not in `I`, and is not
interrupted. -/
structure Calm (I : σ → Prop) (routine : Routine σ α) : Prop where
  keeps : ∀ s, I s → I (routine s).state
  notInterrupted : ∀ s, I s → ∀ message, (routine s).value ≠ .error (.interrupt message)

variable {I : σ → Prop}

theorem Calm.pure (a : α) : Calm I (pure a) where
  keeps _ hs := hs
  notInterrupted _ _ _ h := nomatch h

theorem Calm.log (level : LogLevel) (message : Text) : Calm I (log level message) where
  keeps _ hs := hs
  notInterrupted _ _ _ h := nomatch h

theorem Calm.bind {first : Routine σ α} {next : α → Routine σ β} (hfirst : Calm I first)
    (hnext : ∀ s a, I s → (first s).value = .ok a → Calm I (next a)) :
    Calm I (first >>= next) := by
  constructor
  · intro s hs
    have hmiddle := hfirst.keeps s hs
    exact state_bind hmiddle fun a ha => (hnext s a hs ha).keeps _ hmiddle
  · intro s hs message h
    rcases value_bind_eq_error h with hfault | ⟨a, ha, hfault⟩
    · exact hfirst.notInterrupted s hs message hfault
    · exact (hnext s a hs ha).notInterrupted _ (hfirst.keeps s hs) message hfault

/-- A calm routine ends with a value or with a failure, and its outcome tells
which. -/
theorem Calm.outcome {routine : Routine σ α} (hroutine : Calm I routine) :
    Calm I routine.outcome := by
  constructor
  · intro s hs
    rw [outcome_state]
    exact hroutine.keeps s hs
  · intro s hs message h
    exact hroutine.notInterrupted s hs message (value_of_outcome_eq_error h).1

end Calm

end Routine

end PageScript
