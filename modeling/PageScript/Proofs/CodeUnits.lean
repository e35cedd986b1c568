import Mathlib.Data.List.Chain
import PageScript.Proofs.CodeLiteral
/-!
What a literal does not tell of its text.  A character from U+10000 on is written by two
code units, and so are the two surrogates with these numbers when they stand side by side;
texts in which no such pair stands are told apart by their literals.
-/

namespace PageScript.Text

/-- A text with one character for each pair of surrogates in it. -/
def joined : Text → Text
  | high :: low :: s =>
      if isHighSurrogate high.toNat && isLowSurrogate low.toNat then
        CodePoint.ofNat (pairPoint high.toNat low.toNat) :: joined s
      else high :: joined (low :: s)
  | [c] => [c]
  | [] => []

/-- A text in which no two surrogates that stand side by side are a pair. -/
def IsUnpaired (s : Text) : Prop :=
  s.IsChain fun high low => ¬ (isHighSurrogate high.toNat = true ∧ isLowSurrogate low.toNat = true)

instance (s : Text) : Decidable (IsUnpaired s) :=
  inferInstanceAs (Decidable (List.IsChain _ s))

theorem joined_cons {c : CodePoint} {s : Text}
    (hc : ∀ low ∈ s.head?, ¬ (isHighSurrogate c.toNat = true ∧ isLowSurrogate low.toNat = true)) :
    joined (c :: s) = c :: joined s := by
  cases s with
  | nil => rfl
  | cons low s =>
      have hpair := hc low rfl
      rw [joined, if_neg (by simpa using hpair)]

theorem joined_of_isUnpaired {s : Text} (hs : IsUnpaired s) : joined s = s := by
  induction s with
  | nil => rfl
  | cons c s ih =>
      rw [IsUnpaired, List.isChain_cons] at hs
      rw [joined_cons hs.1, ih hs.2]

theorem toNat_ofNat {n : Nat} (hn : n < 0x110000) : (CodePoint.ofNat n).toNat = n := by
  unfold CodePoint.ofNat
  split
  · simp only [CodePoint.toNat]
    omega
  · have hvalid : n.isValidChar := by
      simp only [Nat.isValidChar]
      omega
    rw [CodePoint.toNat, Char.ofNat, dif_pos hvalid]
    rfl

theorem unitsOf_of_le {c : CodePoint} (hc : 0x10000 ≤ c.toNat) :
    ∃ high low, unitsOf c = [high, low] ∧ isHighSurrogate high.toNat = true ∧
      isLowSurrogate low.toNat = true ∧ CodePoint.ofNat (pairPoint high.toNat low.toNat) = c := by
  have hlt := toNat_lt c
  have hhigh : (CodePoint.ofNat (0xD800 + (c.toNat - 0x10000) / 0x400)).toNat =
      0xD800 + (c.toNat - 0x10000) / 0x400 := toNat_ofNat (by omega)
  have hlow : (CodePoint.ofNat (0xDC00 + (c.toNat - 0x10000) % 0x400)).toNat =
      0xDC00 + (c.toNat - 0x10000) % 0x400 := toNat_ofNat (by omega)
  refine ⟨_, _, by rw [unitsOf, units16, if_neg (by omega)]; rfl, ?_, ?_, ?_⟩
  · rw [hhigh]
    simp only [isHighSurrogate, Bool.and_eq_true, decide_eq_true_eq]
    omega
  · rw [hlow]
    simp only [isLowSurrogate, Bool.and_eq_true, decide_eq_true_eq]
    omega
  · have hpoint : pairPoint (0xD800 + (c.toNat - 0x10000) / 0x400)
        (0xDC00 + (c.toNat - 0x10000) % 0x400) = c.toNat := by
      unfold pairPoint
      omega
    rw [hhigh, hlow, hpoint, ofNat_toNat]

theorem unitsOf_pairPoint {high low : CodePoint} (hhigh : isHighSurrogate high.toNat = true)
    (hlow : isLowSurrogate low.toNat = true) :
    unitsOf (CodePoint.ofNat (pairPoint high.toNat low.toNat)) = [high, low] := by
  simp only [isHighSurrogate, isLowSurrogate, Bool.and_eq_true, decide_eq_true_eq] at hhigh hlow
  have hpoint : (CodePoint.ofNat (pairPoint high.toNat low.toNat)).toNat =
      pairPoint high.toNat low.toNat := toNat_ofNat (by unfold pairPoint; omega)
  have hfirst : 0xD800 + (pairPoint high.toNat low.toNat - 0x10000) / 0x400 = high.toNat := by
    unfold pairPoint
    omega
  have hsecond : 0xDC00 + (pairPoint high.toNat low.toNat - 0x10000) % 0x400 = low.toNat := by
    unfold pairPoint
    omega
  rw [unitsOf, units16, hpoint, if_neg (by unfold pairPoint; omega), hfirst, hsecond]
  simp [ofNat_toNat]

theorem codeUnits_cons (c : CodePoint) (s : Text) : codeUnits (c :: s) = unitsOf c ++ codeUnits s :=
  rfl

theorem unitsOf_of_isSurrogate {c : CodePoint}
    (hc : isHighSurrogate c.toNat = true ∨ isLowSurrogate c.toNat = true) : unitsOf c = [c] := by
  apply unitsOf_of_lt
  simp only [isHighSurrogate, isLowSurrogate, Bool.and_eq_true, decide_eq_true_eq] at hc
  omega

theorem codeUnits_joined (s : Text) : codeUnits (joined s) = codeUnits s := by
  fun_induction joined s with
  | case1 high low s hpair ih =>
      rw [Bool.and_eq_true] at hpair
      rw [codeUnits_cons, codeUnits_cons, codeUnits_cons, unitsOf_pairPoint hpair.1 hpair.2,
        unitsOf_of_isSurrogate (.inl hpair.1), unitsOf_of_isSurrogate (.inr hpair.2), ih]
      rfl
  | case2 high low s _ ih => rw [codeUnits_cons, codeUnits_cons high, ih]
  | case3 c => rfl
  | case4 => rfl

/-- The first code unit of a text is a low surrogate only if its first code point is. -/
theorem isLowSurrogate_head?_codeUnits {s : Text} {unit : CodePoint}
    (hunit : unit ∈ (codeUnits s).head?) (hlow : isLowSurrogate unit.toNat = true) :
    unit ∈ s.head? := by
  cases s with
  | nil => exact absurd hunit nofun
  | cons c s =>
      by_cases hc : c.toNat < 0x10000
      · rw [codeUnits_cons, unitsOf_of_lt hc] at hunit
        exact hunit
      · obtain ⟨high, low, hunits, hhigh, -⟩ := unitsOf_of_le (Nat.le_of_not_lt hc)
        rw [codeUnits_cons, hunits] at hunit
        obtain rfl := Option.some.inj hunit
        simp only [isHighSurrogate, isLowSurrogate, Bool.and_eq_true, decide_eq_true_eq]
          at hhigh hlow
        omega

theorem joined_codeUnits_cons {c : CodePoint} {s : Text}
    (hc : ∀ low ∈ s.head?, ¬ (isHighSurrogate c.toNat = true ∧ isLowSurrogate low.toNat = true)) :
    joined (codeUnits (c :: s)) = c :: joined (codeUnits s) := by
  by_cases hone : c.toNat < 0x10000
  · rw [codeUnits_cons, unitsOf_of_lt hone]
    refine joined_cons fun unit hunit hpair => ?_
    exact hc unit (isLowSurrogate_head?_codeUnits hunit hpair.2) hpair
  · obtain ⟨high, low, hunits, hhigh, hlow, hpoint⟩ := unitsOf_of_le (Nat.le_of_not_lt hone)
    rw [codeUnits_cons, hunits]
    change joined (high :: low :: codeUnits s) = _
    rw [joined, if_pos (by simp [hhigh, hlow]), hpoint]

theorem joined_codeUnits (s : Text) : joined (codeUnits s) = joined s := by
  -- A pair takes two code points at once, so the induction is on `joined` and not on the text.
  fun_induction joined s with
  | case1 high low s hpair ih =>
      rw [Bool.and_eq_true] at hpair
      rw [codeUnits_cons, codeUnits_cons, unitsOf_of_isSurrogate (.inl hpair.1),
        unitsOf_of_isSurrogate (.inr hpair.2)]
      change joined (high :: low :: codeUnits s) = _
      rw [joined, if_pos (by simpa using hpair), ih]
  | case2 high low s hpair ih =>
      rw [joined_codeUnits_cons, ih]
      rintro _ ⟨⟩
      simpa using hpair
  | case3 c => exact joined_codeUnits_cons (by simp)
  | case4 => rfl

/-- Texts have the same code units when they differ in pairs alone. -/
theorem codeUnits_eq_iff {s t : Text} : codeUnits s = codeUnits t ↔ joined s = joined t := by
  constructor
  · intro h
    rw [← joined_codeUnits s, h, joined_codeUnits]
  · intro h
    rw [← codeUnits_joined s, h, codeUnits_joined]

def unitEscape (unit : CodePoint) : Text := "\\u" ++ hex 4 unit.toNat

/-- Behind ASCII, every character is written by its code units. -/
theorem escapedChar_of_le {c : CodePoint} (hc : 0x80 ≤ c.toNat) :
    escapedChar isPlainAscii c = (unitsOf c).flatMap unitEscape := by
  have hne : ∀ d : CodePoint, d.toNat < 0x80 → (c == d) = false := by
    intro d hd
    rw [beq_eq_false_iff_ne]
    rintro rfl
    omega
  have hletter : escapeLetter? c = none := by
    simp (disch := decide) only [escapeLetter?, hne, Bool.false_eq_true, if_false]
  have hplain : isPlainAscii c = false := by
    simp only [isPlainAscii, Bool.and_eq_false_iff, decide_eq_false_iff_not]
    omega
  rw [unitsOf, List.flatMap_map]
  simp only [escapedChar, hletter, hplain, Bool.false_eq_true, if_false]
  refine List.flatMap_congr fun unit hunit => ?_
  have hsmall := lt_of_mem_units16 (toNat_lt c) hunit
  rw [unitEscape, toNat_ofNat (by omega)]

theorem flatMap_escapedChar_unitsOf (c : CodePoint) :
    (unitsOf c).flatMap (escapedChar isPlainAscii) = escapedChar isPlainAscii c := by
  by_cases hc : c.toNat < 0x10000
  · rw [unitsOf_of_lt hc, List.flatMap_singleton]
  · obtain ⟨high, low, hunits, hhigh, hlow, -⟩ := unitsOf_of_le (Nat.le_of_not_lt hc)
    have hescape (unit : CodePoint)
        (hunit : isHighSurrogate unit.toNat = true ∨ isLowSurrogate unit.toNat = true) :
        escapedChar isPlainAscii unit = unitEscape unit := by
      have hle : 0x80 ≤ unit.toNat := by
        simp only [isHighSurrogate, isLowSurrogate, Bool.and_eq_true, decide_eq_true_eq] at hunit
        omega
      rw [escapedChar_of_le hle, unitsOf_of_isSurrogate hunit, List.flatMap_singleton]
    rw [escapedChar_of_le (c := c) (by omega), hunits]
    simp only [List.flatMap_cons, List.flatMap_nil, hescape high (.inl hhigh),
      hescape low (.inr hlow)]

theorem codeLiteral_codeUnits (s : Text) : codeLiteral (codeUnits s) = codeLiteral s := by
  rw [codeLiteral, literalChars, codeUnits, List.flatMap_assoc]
  simp only [flatMap_escapedChar_unitsOf]
  rfl

/-- A literal tells its text, but for what is a pair in it. -/
theorem codeLiteral_eq_iff {s t : Text} : codeLiteral s = codeLiteral t ↔ joined s = joined t := by
  rw [← codeUnits_eq_iff]
  constructor
  · intro h
    have hdenoted := congrArg denoted? h
    rw [denoted?_codeLiteral, denoted?_codeLiteral] at hdenoted
    exact Option.some.inj hdenoted
  · intro h
    rw [← codeLiteral_codeUnits s, h, codeLiteral_codeUnits]

end PageScript.Text
