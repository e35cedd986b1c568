import PageScript.Proofs.RelatedPages

namespace PageScript

variable {σ τ α : Type}

/-- What is left of an end on the part of the state. -/
def Done.through (part : τ → σ) (ended : Done τ α) : Done σ α :=
  ⟨ended.value, part ended.state, ended.log⟩

namespace Routine

variable {part : τ → σ} {P Q S : τ → τ → Prop}

/-- On the part, the larger routine does what the other does; on the larger state it does
what `P` tells. -/
def Extends (part : τ → σ) (P : τ → τ → Prop) (larger : Routine τ α) (routine : Routine σ α) :
    Prop :=
  ∀ t, (larger t).through part = routine (part t) ∧ P t (larger t).state

theorem Extends.finally {larger : Routine τ α} {routine : Routine σ α} {cleanup' : Routine τ Unit}
    {cleanup : Routine σ Unit} (h : Extends part P larger routine)
    (hcleanup : Extends part Q cleanup' cleanup) (hPQ : ∀ a b c, P a b → Q b c → S a c) :
    Extends part S (larger.finally_ cleanup') (routine.finally_ cleanup) := by
  intro t
  obtain ⟨hended, hP⟩ := h t
  obtain ⟨hcleaned, hQ⟩ := hcleanup (larger t).state
  rw [finally_eq, finally_eq, ← hended]
  change _ = (⟨(cleanup (part (larger t).state)).value.bind fun _ => (larger t).value,
    (cleanup (part (larger t).state)).state,
    (larger t).log ++ (cleanup (part (larger t).state)).log⟩ : Done σ α) ∧ _
  rw [← hcleaned]
  exact ⟨rfl, hPQ _ _ _ hP hQ⟩

/-- The routine on the larger state gives what the other gives, under a tag: where one
opens a page, the other may open that page with its calls put on record. -/
structure Tags {α' : Type} (part : τ → σ) (tag : τ → α → α') (larger : Routine τ α')
    (routine : Routine σ α) : Prop where
  value : ∀ t, (larger t).value = (routine (part t)).value.map (tag t)
  state : ∀ t, part (larger t).state = (routine (part t)).state
  log : ∀ t, (larger t).log = (routine (part t)).log

theorem Extends.tags {larger : Routine τ α} {routine : Routine σ α}
    (h : Extends part P larger routine) : Tags part (fun _ => id) larger routine where
  value t := by
    rw [← (h t).1, Except.map_id]
    rfl
  state t := congrArg Done.state (h t).1
  log t := congrArg Done.log (h t).1

namespace Tags

variable {α' : Type} {tag : τ → α → α'} {larger : Routine τ α'} {routine : Routine σ α}

theorem outcome (h : Tags part tag larger routine) :
    Tags part (fun t => Except.map (tag t)) larger.outcome routine.outcome where
  value t := by
    have hvalue := h.value t
    rcases value_cases (routine (part t)).value with ⟨a, hroutine⟩ | ⟨failure, hroutine⟩ |
      ⟨message, hroutine⟩
    · rw [hroutine] at hvalue
      rw [outcome_of_ok hvalue, outcome_of_ok hroutine]
      rfl
    · rw [hroutine] at hvalue
      rw [outcome_of_failure hvalue, outcome_of_failure hroutine]
      rfl
    · rw [hroutine] at hvalue
      rw [outcome_of_interrupt hvalue, outcome_of_interrupt hroutine]
      rfl
  state t := by rw [outcome_state, outcome_state, h.state]
  log t := by rw [outcome_log, outcome_log, h.log]

/-- The tag may depend on the state, so what follows is told of each state. -/
theorem bind {β : Type} {next' : α' → Routine τ β} {next : α → Routine σ β}
    (h : Tags part tag larger routine)
    (hnext : ∀ t a, (routine (part t)).value = .ok a → ∃ Q : τ → τ → Prop,
      Extends part Q (next' (tag t a)) (next a) ∧ ∀ u, Q (larger t).state u → S t u)
    (hfault : ∀ t fault, (routine (part t)).value = .error fault → S t (larger t).state) :
    Extends part S (larger >>= next') (routine >>= next) := by
  intro t
  have hvalue := h.value t
  cases hroutine : (routine (part t)).value with
  | error fault =>
      rw [hroutine] at hvalue
      rw [bind_of_error hvalue, bind_of_error hroutine, ← h.state, ← h.log]
      exact ⟨rfl, hfault t fault hroutine⟩
  | ok a =>
      rw [hroutine] at hvalue
      obtain ⟨Q, hextends, hQ⟩ := hnext t a hroutine
      obtain ⟨hended, hthen⟩ := hextends (larger t).state
      rw [bind_of_ok hvalue, bind_of_ok hroutine, ← h.state, ← h.log, ← hended]
      exact ⟨rfl, hQ _ hthen⟩

end Tags

theorem extends_within {put : σ → τ → τ} (hput : ∀ s t, part (put s t) = s)
    (hP : ∀ t s, P t (put s t)) (routine : Routine σ α) :
    Extends part P (routine.within part put) routine := by
  intro t
  have hstate : part (put (routine (part t)).state t) = (routine (part t)).state := hput _ _
  refine ⟨?_, hP t _⟩
  change (⟨(routine (part t)).value, part (put (routine (part t)).state t),
    (routine (part t)).log⟩ : Done σ α) = routine (part t)
  rw [hstate]

theorem Extends.bind {β : Type} {first' : Routine τ α} {next' : α → Routine τ β}
    {first : Routine σ α} {next : α → Routine σ β} (hfirst : Extends part P first' first)
    (hnext : ∀ a, Extends part Q (next' a) (next a)) (hP : ∀ a b, P a b → S a b)
    (hPQ : ∀ a b c, P a b → Q b c → S a c) :
    Extends part S (first' >>= next') (first >>= next) :=
  hfirst.tags.bind (fun t a _ => ⟨Q, hnext a, fun u => hPQ t _ u (hfirst t).2⟩)
    fun t _ _ => hP t _ (hfirst t).2

theorem extends_isCongruence (hrefl : ∀ t, P t t) (htrans : ∀ a b c, P a b → P b c → P a c) :
    IsCongruence (σ := σ) fun {_} larger routine => Extends part P larger routine where
  done a t := ⟨rfl, hrefl t⟩
  log level message t := ⟨rfl, hrefl t⟩
  bind hfirst hnext := hfirst.bind hnext (fun _ _ => id) htrans
  outcome := by
    intro α routine' routine h t
    obtain ⟨hended, hP⟩ := h t
    have hvalue := congrArg Done.value hended
    rcases value_cases (routine' t).value with ⟨a, h'⟩ | ⟨failure, h'⟩ | ⟨message, h'⟩
    · rw [outcome_of_ok h', outcome_of_ok (hvalue.symm.trans h'), ← hended]
      exact ⟨rfl, hP⟩
    · rw [outcome_of_failure h', outcome_of_failure (hvalue.symm.trans h'), ← hended]
      exact ⟨rfl, hP⟩
    · rw [outcome_of_interrupt h', outcome_of_interrupt (hvalue.symm.trans h'), ← hended]
      exact ⟨rfl, hP⟩

end Routine

end PageScript
