import Mathlib.Algebra.Group.Nat.Defs
import Mathlib.Tactic.SplitIfs
import PageScript.Text.Literal
/-!
Reading the literals of generated code.  An escape stands for exactly one code
point, and so a literal denotes the UTF-16 code units of its text: the text
itself as long as no character of it needs two of them.
-/

namespace PageScript.Text

/-- The code point that a letter behind a backslash stands for. -/
def ofEscapeLetter? (letter : CodePoint) : Option CodePoint :=
  if letter == '"' then some '"'
  else if letter == '\\' then some '\\'
  else if letter == 'n' then some '\n'
  else if letter == 'r' then some '\r'
  else if letter == 't' then some '\t'
  else if letter == 'b' then some '\x08'
  else if letter == 'f' then some '\x0c'
  else none

/-- Puts code points in front of a text that has been read. -/
def withRead (points : Text) : Text × Text → Text × Text
  | (value, rest) => (points ++ value, rest)

@[simp] theorem withRead_nil : withRead [] = id := rfl

theorem withRead_comp (s t : Text) : withRead s ∘ withRead t = withRead (s ++ t) := by
  funext found
  simp [withRead]

/-- Reads a literal from behind its opening quote: the text that it denotes, and
what stands behind its closing quote.  An escape is one of the letters, or four
digits in base sixteen behind `u`; a literal does not run over the end of a line. -/
def readQuotedCode : Text → Option (Text × Text)
  | [] => none
  | .char '\\' :: .char 'u' :: a :: b :: c :: d :: s =>
      (ofHex? [a, b, c, d]).bind fun n => (readQuotedCode s).map (withRead [.ofNat n])
  | .char '\\' :: letter :: s =>
      (ofEscapeLetter? letter).bind fun c => (readQuotedCode s).map (withRead [c])
  | c :: s =>
      if c == '"' then some ([], s)
      else if c == '\\' || c == '\n' || c == '\r' then none
      else (readQuotedCode s).map (withRead [c])

/-- The text that a whole literal denotes, if it is one. -/
def denoted? : Text → Option Text
  | .char '"' :: s =>
      match readQuotedCode s with
      | some (value, []) => some value
      | _ => none
  | _ => none

/-- The UTF-16 code units of a code point, each as a code point of its own. -/
def unitsOf (c : CodePoint) : Text := (units16 c.toNat).map CodePoint.ofNat

/-- The UTF-16 code units of a text, each as a code point of its own. -/
def codeUnits (s : Text) : Text := s.flatMap unitsOf

theorem ofHex?_append_digit (s : Text) (digit : CodePoint) :
    ofHex? (s ++ [digit]) =
      (ofHex? s).bind fun n => (hexValue? digit).map (16 * n + ·) := by
  simp [ofHex?, List.foldl_append]

theorem ofHex?_hex (width n : Nat) : ofHex? (hex width n) = some (n % 16 ^ width) := by
  induction width generalizing n with
  | zero => simp [hex, ofHex?, Nat.mod_one]
  | succ width ih =>
      have hdigit : hexValue? (hexDigit (n % 16)) = some (n % 16) :=
        hexValue?_hexDigit (Nat.mod_lt n (by decide))
      rw [hex, ofHex?_append_digit, ih, hdigit]
      simp only [Option.bind_some, Option.map_some, Option.some.injEq]
      rw [Nat.pow_succ', Nat.mod_mul]
      omega

theorem readQuotedCode_unit {unit : Nat} (hunit : unit < 0x10000) (s : Text) :
    readQuotedCode (("\\u" : Text) ++ hex 4 unit ++ s) =
      (readQuotedCode s).map (withRead [.ofNat unit]) := by
  have hvalue : ofHex? (hex 4 unit) = some unit := by
    have hsize : unit < 16 ^ 4 := by omega
    rw [ofHex?_hex, Nat.mod_eq_of_lt hsize]
  obtain ⟨a, b, c, d, hdigits⟩ : ∃ a b c d, hex 4 unit = [a, b, c, d] :=
    ⟨_, _, _, _, rfl⟩
  rw [hdigits] at hvalue ⊢
  change (ofHex? [a, b, c, d]).bind _ = _
  rw [hvalue, Option.bind_some]
  rfl

theorem readQuotedCode_units {units : List Nat} (hunits : ∀ unit ∈ units, unit < 0x10000)
    (s : Text) :
    readQuotedCode ((units.flatMap fun unit => ("\\u" : Text) ++ hex 4 unit) ++ s) =
      (readQuotedCode s).map (withRead (units.map CodePoint.ofNat)) := by
  induction units with
  | nil => simp
  | cons unit units ih =>
      have hfirst : unit < 0x10000 := hunits unit (by simp)
      have hrest : ∀ later ∈ units, later < 0x10000 := fun later h => hunits later (by simp [h])
      rw [List.flatMap_cons, List.append_assoc, readQuotedCode_unit hfirst, ih hrest,
        Option.map_map, withRead_comp]
      rfl

theorem lt_of_mem_units16 {n unit : Nat} (hn : n < 0x110000) (hunit : unit ∈ units16 n) :
    unit < 0x10000 := by
  unfold units16 at hunit
  split at hunit
  · simp only [List.mem_singleton] at hunit
    omega
  · simp only [List.mem_cons, List.not_mem_nil, or_false] at hunit
    omega

theorem ofNat_toNat (c : CodePoint) : CodePoint.ofNat c.toNat = c := by
  cases c with
  | char c =>
      have hc : ¬(0xD800 ≤ c.toNat ∧ c.toNat < 0xE000) := by
        have hvalid : c.toNat < 0xD800 ∨ 0xDFFF < c.toNat ∧ c.toNat < 0x110000 := c.valid
        omega
      simp [CodePoint.ofNat, CodePoint.toNat, hc]
  | surrogate index =>
      have hindex : index.val < 0x800 := index.isLt
      simp [CodePoint.ofNat, CodePoint.toNat]
      omega

theorem toNat_lt (c : CodePoint) : c.toNat < 0x110000 := by
  cases c with
  | char c =>
      have hvalid : c.toNat < 0xD800 ∨ 0xDFFF < c.toNat ∧ c.toNat < 0x110000 := c.valid
      simp only [CodePoint.toNat]
      omega
  | surrogate index =>
      have hindex : index.val < 0x800 := index.isLt
      simp only [CodePoint.toNat]
      omega

theorem unitsOf_of_lt {c : CodePoint} (hc : c.toNat < 0x10000) : unitsOf c = [c] := by
  simp [unitsOf, units16, hc, ofNat_toNat]

theorem readQuotedCode_letter {c letter : CodePoint} (hletter : escapeLetter? c = some letter)
    (s : Text) :
    readQuotedCode ('\\' :: letter :: s) = (readQuotedCode s).map (withRead (unitsOf c)) := by
  unfold escapeLetter? at hletter
  split_ifs at hletter with hquote hslash hline hreturn htab hback hfeed
  all_goals
    obtain rfl : _ = c := (beq_iff_eq.mp ‹(c == _) = true›).symm
    obtain rfl : _ = letter := Option.some.inj hletter
    rfl

theorem readQuotedCode_plain {c : CodePoint} (hletter : escapeLetter? c = none) (s : Text) :
    readQuotedCode (c :: s) = (readQuotedCode s).map (withRead [c]) := by
  unfold escapeLetter? at hletter
  split_ifs at hletter with hquote hslash hline hreturn
  have hne : c ≠ '\\' := by simpa using hslash
  rw [readQuotedCode]
  · simp [hquote, hslash, hline, hreturn]
  · exact fun _ _ _ _ _ h _ => hne h
  · exact fun _ _ h _ => hne h

theorem readQuotedCode_escapedChar (c : CodePoint) (s : Text) :
    readQuotedCode (escapedChar isPlainAscii c ++ s) =
      (readQuotedCode s).map (withRead (unitsOf c)) := by
  cases hletter : escapeLetter? c with
  | some letter => simpa [escapedChar, hletter] using readQuotedCode_letter hletter s
  | none =>
      cases hplain : isPlainAscii c with
      | true =>
          have hsmall : c.toNat < 0x10000 := by
            simp only [isPlainAscii, Bool.and_eq_true, decide_eq_true_eq] at hplain
            omega
          simpa [escapedChar, hletter, hplain, unitsOf_of_lt hsmall] using
            readQuotedCode_plain hletter s
      | false =>
          have hunits : ∀ unit ∈ units16 c.toNat, unit < 0x10000 :=
            fun unit hunit => lt_of_mem_units16 (toNat_lt c) hunit
          simpa [escapedChar, hletter, hplain, unitsOf] using readQuotedCode_units hunits s

theorem readQuotedCode_escaped (s rest : Text) :
    readQuotedCode (s.flatMap (escapedChar isPlainAscii) ++ .char '"' :: rest) =
      some (codeUnits s, rest) := by
  induction s with
  | nil => rfl
  | cons c s ih =>
      rw [List.flatMap_cons, List.append_assoc, readQuotedCode_escapedChar, ih]
      rfl

theorem denoted?_codeLiteral (s : Text) : denoted? (codeLiteral s) = some (codeUnits s) := by
  have hread := readQuotedCode_escaped s []
  change (match readQuotedCode (s.flatMap (escapedChar isPlainAscii) ++ [.char '"']) with
    | some (value, []) => some value
    | _ => none) = _
  rw [hread]

theorem length_le_length_codeUnits (s : Text) : s.length ≤ (codeUnits s).length := by
  induction s with
  | nil => exact Nat.le_refl 0
  | cons c s ih =>
      have hone : 1 ≤ (unitsOf c).length := by
        unfold unitsOf units16
        split <;> simp
      have hcons : codeUnits (c :: s) = unitsOf c ++ codeUnits s := rfl
      rw [hcons, List.length_append, List.length_cons]
      omega

/-- The characters that need two code units are the only ones lost. -/
theorem codeUnits_eq_self_iff (s : Text) :
    codeUnits s = s ↔ ∀ c ∈ s, c.toNat < 0x10000 := by
  induction s with
  | nil => simp [codeUnits]
  | cons c s ih =>
      have hcons : codeUnits (c :: s) = unitsOf c ++ codeUnits s := rfl
      rw [List.forall_mem_cons, ← ih, hcons]
      constructor
      · intro h
        by_cases hc : c.toNat < 0x10000
        · rw [unitsOf_of_lt hc] at h
          exact ⟨hc, (List.cons.inj h).2⟩
        · -- a text never gets shorter, so one that gains a unit is no longer itself
          have hlength := congrArg List.length h
          have hgain : (unitsOf c).length = 2 := by simp [unitsOf, units16, hc]
          have hkeep := length_le_length_codeUnits s
          simp only [List.length_append, List.length_cons] at hlength
          omega
      · rintro ⟨hc, hs⟩
        rw [unitsOf_of_lt hc, hs]
        rfl

end PageScript.Text
