import PageScript.Proofs.AttributeRoundTrip
/-!
Values read in one pass.  The two passes over a written value, the first for its quotes and the
second for its backslashes, come to one pass from the left: of a run of backslashes each two are
one, and one that is left over belongs to a quote behind the run, or else stands for itself.
-/

namespace PageScript.Selector

open Text

/-- A backslash before a backslash or a quote stands for what is behind it, and every other
character for itself. -/
def readEscapes : Text → Text
  | .char '\\' :: .char '\\' :: s => .char '\\' :: readEscapes s
  | .char '\\' :: .char '"' :: s => .char '"' :: readEscapes s
  | c :: s => c :: readEscapes s
  | [] => []

theorem unescape_quote (s : Text) :
    unescape ('\\' :: .char '"' :: s) = .char '"' :: unescape s := by
  have hquote : CodePoint.char '"' ≠ '\\' := by decide
  rw [unescape, dropBackslashBefore_escaped, dropBackslashBefore_cons hquote]
  rfl

/-- A quote behind two backslashes takes the second of them from the first pass, and the other
one is left to the second pass by itself. -/
theorem unescape_backslash (s : Text) :
    unescape ('\\' :: .char '\\' :: s) = .char '\\' :: unescape s := by
  have hfirst : dropBackslashBefore '"' ('\\' :: .char '\\' :: s) =
      .char '\\' :: dropBackslashBefore '"' ('\\' :: s) := by
    apply dropBackslashBefore_kept
    rintro d ⟨⟩
    decide
  rw [unescape, hfirst]
  by_cases hs : CodePoint.char '"' ∈ s.head?
  · obtain ⟨rest, rfl⟩ := List.head?_eq_some_iff.mp hs
    have hquote : CodePoint.char '"' ≠ '\\' := by decide
    have hrest : dropBackslashBefore '"' ('"' :: rest) = .char '"' :: dropBackslashBefore '"' rest :=
      dropBackslashBefore_cons hquote rest
    rw [dropBackslashBefore_escaped, dropBackslashBefore_kept, unescape, hrest]
    rintro d ⟨⟩
    exact hquote
  · have hkept : dropBackslashBefore '"' ('\\' :: s) = .char '\\' :: dropBackslashBefore '"' s := by
      apply dropBackslashBefore_kept
      rintro d hd rfl
      exact hs hd
    rw [hkept, dropBackslashBefore_escaped]
    rfl

theorem unescape_cons {c : CodePoint} {s : Text}
    (hc : c = '\\' → ∀ d ∈ s.head?, d ≠ '\\' ∧ d ≠ '"') : unescape (c :: s) = c :: unescape s := by
  by_cases hslash : c = '\\'
  · subst hslash
    have hnext := hc rfl
    rw [unescape, dropBackslashBefore_kept fun d hd => (hnext d hd).2, dropBackslashBefore_kept]
    · rfl
    · cases s with
      | nil => simp [dropBackslashBefore]
      | cons d s =>
          have hd := (hnext d rfl).1
          rw [dropBackslashBefore_cons hd]
          rintro _ ⟨⟩
          exact hd
  · rw [unescape, dropBackslashBefore_cons hslash, dropBackslashBefore_cons hslash]
    rfl

theorem unescape_eq_readEscapes (raw : Text) : unescape raw = readEscapes raw := by
  fun_induction readEscapes raw with
  | case1 s ih => rw [unescape_backslash, ih]
  | case2 s ih => rw [unescape_quote, ih]
  | case3 c s hbackslash hquote ih =>
      rw [unescape_cons, ih]
      rintro rfl d hd
      obtain ⟨rest, rfl⟩ := List.head?_eq_some_iff.mp hd
      constructor
      · rintro rfl
        exact hbackslash rest rfl rfl
      · rintro rfl
        exact hquote rest rfl rfl
  | case4 => rfl

/-- Of a run of backslashes each two are one, whatever stands behind them. -/
theorem readEscapes_replicate (n : Nat) (rest : Text) :
    readEscapes (List.replicate n (CodePoint.char '\\') ++ rest) =
      List.replicate (n / 2) (CodePoint.char '\\') ++
        readEscapes (List.replicate (n % 2) (CodePoint.char '\\') ++ rest) := by
  induction n using Nat.twoStepInduction with
  | zero => rfl
  | one => rfl
  | more n ih _ =>
      have hhalf : (n + 2) / 2 = n / 2 + 1 := by omega
      have hrest : (n + 2) % 2 = n % 2 := by omega
      rw [hhalf, hrest]
      simp only [List.replicate_succ, List.cons_append, readEscapes, ih]

/-- The two passes over a value give what one pass gives, so that every selector of one attribute
is read with the value that one pass gives; and in a run of backslashes each two are one, so that
it hangs on their number alone whether one is left for what stands behind the run. -/
theorem unescape_onePass :
    (∀ raw, unescape raw = readEscapes raw) ∧
    (∀ selector, value? selector =
      ((attribute? (trim selector)).bind Attribute.value?).map readEscapes) ∧
    ∀ (n : Nat) (rest : Text), unescape (List.replicate n (.char '\\') ++ rest) =
      List.replicate (n / 2) (.char '\\') ++
        unescape (List.replicate (n % 2) (.char '\\') ++ rest) := by
  have hpasses : unescape = readEscapes := funext unescape_eq_readEscapes
  refine ⟨unescape_eq_readEscapes, fun selector => ?_, fun n rest => ?_⟩
  · rw [value?, hpasses]
  · rw [hpasses]
    exact readEscapes_replicate n rest

example : unescape "\\\\\\\"a\\\\\"\\" = "\\\"a\\\"\\" := by decide

end PageScript.Selector
