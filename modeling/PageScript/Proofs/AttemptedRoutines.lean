import Mathlib.Data.List.Forall2
import PageScript.Proofs.ExtendedState

namespace PageScript

namespace Routine

variable {σ τ α : Type}

/-- Does every one of some routines, and tells how each of them has ended. -/
def attemptAll : List (Routine σ α) → Routine σ (List (Except Fault α))
  | [] => return []
  | routine :: rest => do
      let ended ← routine.attempt
      let more ← attemptAll rest
      return ended :: more

theorem attempt_state (routine : Routine σ α) (s : σ) :
    (routine.attempt s).state = (routine s).state := rfl

theorem attemptAll_cons {routine : Routine σ α} {rest : List (Routine σ α)} {s : σ}
    {more : List (Except Fault α)} (hrest : (attemptAll rest (routine s).state).value = .ok more) :
    attemptAll (routine :: rest) s =
      ⟨.ok ((routine s).value :: more), (attemptAll rest (routine s).state).state,
        (routine s).log ++ (attemptAll rest (routine s).state).log⟩ := by
  have hattempt : (routine.attempt s).value = .ok (routine s).value := rfl
  have hmore : ((attemptAll rest >>= fun more => pure ((routine s).value :: more))
      (routine s).state) = ⟨.ok ((routine s).value :: more), (attemptAll rest (routine s).state).state,
        (attemptAll rest (routine s).state).log⟩ := by
    rw [bind_of_ok hrest, pure_apply, List.append_nil]
  rw [attemptAll, bind_of_ok hattempt, attempt_state, hmore]
  rfl

theorem exists_value_attemptAll (routines : List (Routine σ α)) (s : σ) :
    ∃ ends, (attemptAll routines s).value = .ok ends ∧ ends.length = routines.length := by
  induction routines generalizing s with
  | nil => exact ⟨[], rfl, rfl⟩
  | cons routine rest ih =>
      obtain ⟨more, hmore, hlength⟩ := ih (routine s).state
      rw [attemptAll_cons hmore]
      exact ⟨(routine s).value :: more, rfl, congrArg Nat.succ hlength⟩

theorem attemptAll_cons_state (routine : Routine σ α) (rest : List (Routine σ α)) (s : σ) :
    (attemptAll (routine :: rest) s).state = (attemptAll rest (routine s).state).state := by
  obtain ⟨more, hmore, -⟩ := exists_value_attemptAll rest (routine s).state
  rw [attemptAll_cons hmore]

theorem attemptAll_preserves {I : σ → Prop} {routines : List (Routine σ α)}
    (hroutines : ∀ routine ∈ routines, ∀ s, I s → I (routine s).state) {s : σ} (hs : I s) :
    I (attemptAll routines s).state := by
  induction routines generalizing s with
  | nil => exact hs
  | cons routine rest ih =>
      have hfirst := hroutines routine List.mem_cons_self s hs
      rw [attemptAll_cons_state]
      exact ih (fun later hlater => hroutines later (List.mem_cons_of_mem routine hlater)) hfirst

theorem attemptAll_extends {part : τ → σ} {P : τ → τ → Prop} (hrefl : ∀ t, P t t)
    (htrans : ∀ a b c, P a b → P b c → P a c) {larger : List (Routine τ α)}
    {routines : List (Routine σ α)} (h : List.Forall₂ (Extends part P) larger routines) :
    Extends part P (attemptAll larger) (attemptAll routines) := by
  induction h with
  | nil => exact fun t => ⟨rfl, hrefl t⟩
  | @cons first' first rest' rest hfirst _ ih =>
      intro t
      obtain ⟨hended, hP⟩ := hfirst t
      obtain ⟨hmore, hQ⟩ := ih (first' t).state
      obtain ⟨ends, hends, -⟩ := exists_value_attemptAll rest' (first' t).state
      have hpart : part (first' t).state = (first (part t)).state := congrArg Done.state hended
      have hends' : (attemptAll rest (first (part t)).state).value = .ok ends := by
        rw [← hpart, ← hmore]
        exact hends
      refine ⟨?_, ?_⟩
      · rw [attemptAll_cons hends, attemptAll_cons hends', ← hpart, ← hmore, ← hended]
        rfl
      · rw [attemptAll_cons_state]
        exact htrans _ _ _ hP hQ

end Routine

end PageScript
