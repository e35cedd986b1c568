import PageScript.Proofs.AttributeSyntax
import PageScript.Proofs.CodeUnits
import PageScript.Proofs.NameCharacters
import PageScript.Text.Lower
/-!
The attribute selectors that are made for an element.  The two passes over a value cancel the
backslashes in front of its quotes and its backslashes, so that every value comes back; and
what kind the selector is, the small letters of its attribute's name alone decide.
-/

namespace PageScript

namespace Text

open Name

theorem smallOf_of_lt {c : CodePoint} (hc : c.toNat < 0x80) : smallOf c = c.toLower := by
  obtain ⟨n, rfl⟩ := exists_char_of_toNat_lt hc
  by_cases hupper : 0x41 ≤ n.val ∧ n.val ≤ 0x5A
  · have hcapital : ∀ n : Fin 0x80, 0x41 ≤ n.val ∧ n.val ≤ 0x5A →
        smallOf (.char (Char.ofNat n)) = CodePoint.toLower (.char (Char.ofNat n)) := by
      decide +kernel
    exact hcapital n hupper
  · have hsmall : ∀ n : Fin 0x80, ¬ (0x41 ≤ n.val ∧ n.val ≤ 0x5A) →
        CodePoint.toLower (.char (Char.ofNat n)) = .char (Char.ofNat n) := by decide +kernel
    have hnone :
        capitals.find? (fun run => run.holds (CodePoint.char (Char.ofNat n)).toNat) = none := by
      have hbeyond : ∀ run ∈ capitals, run.first = 0x41 ∧ run.last = 0x5A ∨ 0x80 ≤ run.first := by
        decide +kernel
      have hn : (CodePoint.char (Char.ofNat n)).toNat = n.val := by
        have hall : ∀ n : Fin 0x80, (CodePoint.char (Char.ofNat n)).toNat = n.val := by decide +kernel
        exact hall n
      rw [List.find?_eq_none]
      intro run hrun
      simp only [CapitalRun.holds, Bool.and_eq_true, decide_eq_true_eq, hn]
      rcases hbeyond run hrun with ⟨hfirst, hlast⟩ | hfirst <;> omega
    rw [smallOf, hnone, hsmall n hupper]

theorem toLower_of_le {c : CodePoint} (hc : 0x80 ≤ c.toNat) : c.toLower = c := by
  cases c with
  | char c =>
      have hupper : ¬ (c.val ≥ 'A'.val ∧ c.val ≤ 'Z'.val) := by
        rintro ⟨-, hlast⟩
        have hlast : c.toNat ≤ 0x5A := hlast
        simp only [CodePoint.toNat] at hc
        omega
      exact congrArg CodePoint.char (dif_neg hupper)
  | surrogate index => rfl

/-- The one letter beyond ASCII whose small letter is one of ASCII is the Kelvin sign. -/
theorem toNat_lt_of_smallOf {c : CodePoint} (hsmall : (smallOf c).toNat < 0x80)
    (hkelvin : smallOf c ≠ 'k') : c.toNat < 0x80 := by
  have table : ∀ run ∈ capitals, run.last < 0x80 ∨ (run.first = 0x212A ∧ run.last = 0x212A) ∨
      0x80 ≤ (run.first : Int) + run.shift ∧ (run.last : Int) + run.shift < 0x110000 := by
    decide +kernel
  by_contra hc
  unfold smallOf at hsmall hkelvin
  split at hsmall
  · rename_i run hrun
    have hholds := List.find?_some hrun
    simp only [CapitalRun.holds, Bool.and_eq_true, decide_eq_true_eq] at hholds
    rw [hrun] at hkelvin
    rcases table run (List.mem_of_find?_eq_some hrun) with hlast | ⟨hfirst, hlast⟩ | ⟨hfrom, hto⟩
    · omega
    · have hc : c = .ofNat 0x212A := by
        rw [← ofNat_toNat c]
        congr 1
        omega
      subst hc
      have hfind : capitals.find? (fun run => run.holds (CodePoint.ofNat 0x212A).toNat) =
          some ⟨0x212A, 0x212A, 1, -8383⟩ := by decide +kernel
      obtain rfl := Option.some.inj (hfind.symm.trans hrun)
      exact hkelvin (by decide)
    · rw [toNat_ofNat (by omega)] at hsmall
      omega
  · exact hc hsmall

theorem lower_cons (c : CodePoint) (s : Text) :
    lower (c :: s) =
      (if c.toNat = 0x130 then [.char 'i', .ofNat 0x307] else [smallOf c]) ++ lower s :=
  List.flatMap_cons

theorem lower_of_lt {s : Text} (hs : ∀ c ∈ s, c.toNat < 0x80) :
    lower s = s.map CodePoint.toLower := by
  induction s with
  | nil => rfl
  | cons c s ih =>
      have hc := hs c List.mem_cons_self
      have hdotted : c.toNat ≠ 0x130 := by omega
      have hlower := ih fun d hd => hs d (List.mem_cons_of_mem c hd)
      rw [lower_cons, if_neg hdotted, smallOf_of_lt hc, hlower]
      rfl

/-- A word of ASCII without the letter k has the same capitals in ASCII and in Unicode. -/
theorem lower_eq_iff {s word : Text} (hword : ∀ c ∈ word, c.toNat < 0x80 ∧ c ≠ 'k') :
    lower s = word ↔ s.map CodePoint.toLower = word := by
  constructor
  · intro hlower
    have hs : ∀ c ∈ s, c.toNat < 0x80 := by
      intro c hc
      have hsmall : ∀ d ∈ (if c.toNat = 0x130 then [.char 'i', .ofNat 0x307]
          else [smallOf c] : Text), d.toNat < 0x80 ∧ d ≠ 'k' := by
        intro d hd
        exact hword d (hlower ▸ List.mem_flatMap.mpr ⟨c, hc, hd⟩)
      split at hsmall
      · exact absurd (hsmall (.ofNat 0x307) (by simp)).1 (by decide)
      · exact toNat_lt_of_smallOf (hsmall _ List.mem_cons_self).1 (hsmall _ List.mem_cons_self).2
    rw [← lower_of_lt hs, hlower]
  · intro hmap
    have hs : ∀ c ∈ s, c.toNat < 0x80 := by
      intro c hc
      have hsmall := (hword _ (hmap ▸ List.mem_map_of_mem hc)).1
      by_contra hle
      rw [toLower_of_le (by omega)] at hsmall
      exact hle hsmall
    rw [lower_of_lt hs, hmap]

end Text

namespace Selector

open Text

/-- The kind of an attribute selector, by the small letters of the name. -/
def Kind.ofSmallName (name : Text) : Kind :=
  if name = "data-testid" then .testId
  else if name = "aria-label" then .ariaLabel
  else if name = "role" then .role
  else .attribute

theorem ofAttributeName_eq (name : Text) :
    Kind.ofAttributeName name = Kind.ofSmallName (Text.lower name) := by
  have htestId : Text.lower name = "data-testid" ↔ name.map CodePoint.toLower = "data-testid" :=
    lower_eq_iff (by decide)
  have hariaLabel : Text.lower name = "aria-label" ↔ name.map CodePoint.toLower = "aria-label" :=
    lower_eq_iff (by decide)
  have hrole : Text.lower name = "role" ↔ name.map CodePoint.toLower = "role" :=
    lower_eq_iff (by decide)
  simp only [Kind.ofAttributeName, Kind.ofSmallName, beq_iff_eq, htestId, hariaLabel, hrole]

/-- The text with every backslash twice. -/
def doubled (s : Text) : Text :=
  s.flatMap fun c : CodePoint => if c == '\\' then ['\\', '\\'] else [c]

theorem dropBackslashBefore_cons {c d : CodePoint} (hd : d ≠ '\\') (s : Text) :
    dropBackslashBefore c (d :: s) = d :: dropBackslashBefore c s := by
  rw [dropBackslashBefore]
  exact fun _ _ h => absurd h hd

theorem dropBackslashBefore_escaped (c : CodePoint) (s : Text) :
    dropBackslashBefore c ('\\' :: c :: s) = c :: dropBackslashBefore c s := by
  rw [dropBackslashBefore, if_pos (beq_self_eq_true c)]

theorem dropBackslashBefore_kept {c : CodePoint} {s : Text} (hs : ∀ d ∈ s.head?, d ≠ c) :
    dropBackslashBefore c ('\\' :: s) = .char '\\' :: dropBackslashBefore c s := by
  cases s with
  | nil => rfl
  | cons d s =>
      have hd : ¬ (d == c) = true := by simpa using hs d rfl
      rw [dropBackslashBefore, if_neg hd]

theorem escape_cons (c : CodePoint) (s : Text) :
    escape (c :: s) = (if c == '\\' || c == '"' then [.char '\\', c] else [c]) ++ escape s :=
  List.flatMap_cons

theorem escape_cons_plain {c : CodePoint} (hslash : c ≠ '\\') (hquote : c ≠ '"') (s : Text) :
    escape (c :: s) = c :: escape s := by
  have hc : ¬ (c == .char '\\' || c == .char '"') = true := by simp [hslash, hquote]
  rw [escape_cons, if_neg hc]
  rfl

/-- No quote stands at the front of an escaped value, so that a backslash before it is not one
before a quote. -/
theorem head?_escape (s : Text) : ∀ c ∈ (escape s).head?, c ≠ '"' := by
  cases s with
  | nil => exact fun c hc => nomatch hc
  | cons c s =>
      rw [escape_cons]
      split
      · rintro d ⟨⟩
        decide
      · rename_i hc
        rintro d ⟨⟩ rfl
        exact hc rfl

theorem doubled_cons (c : CodePoint) (s : Text) :
    doubled (c :: s) = (if c == '\\' then [.char '\\', .char '\\'] else [c]) ++ doubled s :=
  List.flatMap_cons

theorem dropBackslashBefore_quote_escape (s : Text) :
    dropBackslashBefore '"' (escape s) = doubled s := by
  induction s with
  | nil => rfl
  | cons c s ih =>
      rw [doubled_cons, ← ih]
      by_cases hslash : c = '\\'
      · subst hslash
        have hquote : ∀ d ∈ (.char '\\' :: escape s : Text).head?, d ≠ '"' := by
          rintro d ⟨⟩
          decide
        calc dropBackslashBefore '"' (escape ('\\' :: s))
            = dropBackslashBefore '"' ('\\' :: .char '\\' :: escape s) := rfl
          _ = .char '\\' :: dropBackslashBefore '"' ('\\' :: escape s) :=
              dropBackslashBefore_kept hquote
          _ = .char '\\' :: .char '\\' :: dropBackslashBefore '"' (escape s) := by
              rw [dropBackslashBefore_kept (head?_escape s)]
      · rw [if_neg (by simpa using hslash)]
        by_cases hquote : c = '"'
        · subst hquote
          exact dropBackslashBefore_escaped '"' (escape s)
        · rw [escape_cons_plain hslash hquote, dropBackslashBefore_cons hslash]
          rfl

theorem dropBackslashBefore_backslash_doubled (s : Text) :
    dropBackslashBefore '\\' (doubled s) = s := by
  induction s with
  | nil => rfl
  | cons c s ih =>
      rw [doubled_cons]
      by_cases hslash : c = '\\'
      · subst hslash
        calc dropBackslashBefore '\\' ('\\' :: .char '\\' :: doubled s)
            = .char '\\' :: dropBackslashBefore '\\' (doubled s) :=
              dropBackslashBefore_escaped '\\' _
          _ = .char '\\' :: s := by rw [ih]
      · rw [if_neg (by simpa using hslash)]
        calc dropBackslashBefore '\\' (c :: doubled s)
            = c :: dropBackslashBefore '\\' (doubled s) := dropBackslashBefore_cons hslash _
          _ = c :: s := by rw [ih]

theorem unescape_escape (s : Text) : unescape (escape s) = s := by
  rw [unescape, dropBackslashBefore_quote_escape, dropBackslashBefore_backslash_doubled]

theorem standsFree_escape (s : Text) : standsFree '"' (escape s) = false := by
  induction s with
  | nil => rfl
  | cons c s ih =>
      rw [escape_cons]
      split
      · exact ih
      · rename_i hc
        simp only [Bool.or_eq_true, beq_iff_eq, not_or] at hc
        rw [List.singleton_append, standsFree, ih, Bool.or_false, beq_eq_false_iff_ne]
        · exact hc.2
        · exact fun _ _ h => absurd h hc.1

theorem ofAttribute_isAttribute {name : Text} (hname : IsName name) (value : Text) :
    IsAttribute (trim (ofAttribute name value)) name
      (some ('"' :: (escape value ++ [CodePoint.char '"']))) := by
  have h := isAttribute_quoted hname (escape value)
  have htrim : trim (ofAttribute name value) = ofAttribute name value :=
    (isTrimmed_of_brackets h.head?_eq h.getLast?_eq).trim_eq
  rwa [htrim]

theorem isName_testId : IsName "data-testid" := ⟨by decide, by decide +kernel⟩

theorem isName_ariaLabel : IsName "aria-label" := ⟨by decide, by decide +kernel⟩

theorem kind_ofAttribute {name : Text} (hname : IsName name) (value : Text) :
    kind (ofAttribute name value) = Kind.ofSmallName (Text.lower name) := by
  rw [(ofAttribute_isAttribute hname value).kind_eq, ofAttributeName_eq]

theorem isStable_ofTestId (value : Text) : isStable (ofTestId value) = true := by
  rw [isStable, ofTestId, (ofAttribute_isAttribute isName_testId value).kind_eq]
  decide

theorem isStable_ofAriaLabel (value : Text) : isStable (ofAriaLabel value) = true := by
  rw [isStable, ofAriaLabel, (ofAttribute_isAttribute isName_ariaLabel value).kind_eq]
  decide

/-- Every selector made of an attribute's name and a value is one selector of the syntax; it is
read with that value, and its kind is the one of the name in small letters.  So those of test
ids and labels are stable. -/
theorem ofAttribute_readsBack {name : Text} (hname : IsName name) (value : Text) :
    IsSingle (ofAttribute name value) name (some (escape value)) ∧
      value? (ofAttribute name value) = some value ∧
      kind (ofAttribute name value) = Kind.ofSmallName (Text.lower name) ∧
      isStable (ofTestId value) = true ∧ isStable (ofAriaLabel value) = true := by
  refine ⟨isSingle_quoted hname (standsFree_escape value), ?_, kind_ofAttribute hname value,
    isStable_ofTestId value, isStable_ofAriaLabel value⟩
  have hwritten : IsWritten (.char '"' :: (escape value ++ [.char '"'])) (escape value) :=
    .quoted rfl (standsFree_escape value)
  rw [(ofAttribute_isAttribute hname value).value?_eq, Option.map_some, hwritten.unquote_eq,
    unescape_escape]

theorem ofAttribute_capitalTestId_readsBack :
    IsName "Data-TestId" ∧ value? (ofAttribute "Data-TestId" "a\\\"]\\") = some "a\\\"]\\" ∧
      kind (ofAttribute "Data-TestId" "a\\\"]\\") = .testId := by
  have hname : IsName "Data-TestId" := ⟨by decide, by decide +kernel⟩
  obtain ⟨-, hvalue, hkind, -, -⟩ := ofAttribute_readsBack hname "a\\\"]\\"
  have hsmall : Kind.ofSmallName (Text.lower "Data-TestId") = .testId := by decide +kernel
  exact ⟨hname, hvalue, hkind.trans hsmall⟩

end Selector

end PageScript
