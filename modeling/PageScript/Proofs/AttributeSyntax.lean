import Mathlib.Data.List.Basic
import Mathlib.Tactic.SplitIfs
import PageScript.Proofs.TrimmedTexts
import PageScript.Selector.Kind
/-!
The syntax of attribute selectors, and what the reader takes for one.  It reads every
selector of the syntax, but between the equals sign and the last bracket it asks for
nothing: a value may go on over other brackets, and so over other selectors.
-/

namespace PageScript

namespace Text

/-- Ranges with all blanks in them, and with no character of a word. -/
def gaps : Ranges :=
  [(9, 32), (0x80, 0xA0), (0x1680, 0x1680), (0x2000, 0x206F), (0x3000, 0x3000)]

theorem has_gaps_of_isBlank {c : CodePoint} (h : isBlank c = true) : gaps.has c.toNat = true := by
  simp only [isBlank, Bool.or_eq_true, Bool.and_eq_true, decide_eq_true_eq, beq_iff_eq] at h
  simp only [gaps, Ranges.has, List.any_cons, List.any_nil, Bool.or_eq_true, Bool.and_eq_true,
    decide_eq_true_eq]
  omega

theorem isWordChar_of_isBlank {c : CodePoint} (h : isBlank c = true) : isWordChar c = false := by
  obtain ⟨gap, hgap, hfirst, hlast⟩ := Ranges.has_iff.mp (has_gaps_of_isBlank h)
  have hapart : ∀ range ∈ lettersAndNumbers, ∀ gap ∈ gaps, range.2 < gap.1 ∨ gap.2 < range.1 := by
    decide +kernel
  have hascii : ∀ gap ∈ gaps, gap.2 < 0x30 ∨ 0x7A < gap.1 := by decide
  rw [Bool.eq_false_iff]
  intro hword
  simp only [isWordChar, isAsciiAlnum, Bool.or_eq_true, Bool.and_eq_true, decide_eq_true_eq,
    beq_iff_eq] at hword
  rcases hword with (halnum | rfl) | ⟨-, hletter⟩
  · have := hascii gap hgap
    omega
  · exact absurd h (by decide)
  · obtain ⟨range, hrange, hfrom, hto⟩ := Ranges.has_iff.mp hletter
    have := hapart range hrange gap hgap
    omega

end Text

namespace Selector

open Text

theorem isNameChar_of_isBlank {c : CodePoint} (h : isBlank c = true) : isNameChar c = false := by
  rw [isNameChar, isWordChar_of_isBlank h, Bool.false_or, beq_eq_false_iff_ne]
  rintro rfl
  exact absurd h (by decide)

def IsName (name : Text) : Prop := name ≠ [] ∧ ∀ c ∈ name, isNameChar c = true

/-- An attribute selector: a name in square brackets, and perhaps an equals sign and a
value as it is written.  Blanks may stand around the name and around the value. -/
inductive IsAttribute : Text → Text → Option Text → Prop
  | bare {before name after : Text} (hbefore : isBlankText before = true) (hname : IsName name)
      (hafter : isBlankText after = true) :
      IsAttribute ('[' :: (before ++ (name ++ (after ++ [.char ']'])))) name none
  | valued {before name after inner form last : Text} (hbefore : isBlankText before = true)
      (hname : IsName name) (hafter : isBlankText after = true) (hinner : isBlankText inner = true)
      (hform : IsTrimmed form) (hlast : isBlankText last = true) :
      IsAttribute
        ('[' :: (before ++ (name ++ (after ++ .char '=' :: (inner ++ form ++ last ++ [.char ']'])))))
        name (some form)

def isQuote (c : CodePoint) : Bool := c == '"' || c == '\''

/-- Whether a character stands in a text without being escaped; a backslash escapes the
character behind it. -/
def standsFree (c : CodePoint) : Text → Bool
  | .char '\\' :: _ :: s => standsFree c s
  | d :: s => d == c || standsFree c s
  | [] => false

/-- How a value may be written: between two quotes that do not stand free in it, or as it
is, without quotes, brackets and blanks. -/
inductive IsWritten : Text → Text → Prop
  | quoted {quote : CodePoint} {raw : Text} (hquote : isQuote quote = true)
      (hraw : standsFree quote raw = false) : IsWritten (quote :: (raw ++ [quote])) raw
  | plain {raw : Text}
      (hraw : ∀ c ∈ raw, isBlank c = false ∧ isQuote c = false ∧ c ≠ '[' ∧ c ≠ ']') :
      IsWritten raw raw

/-- The text is one attribute selector, of a name and perhaps a value. -/
def IsSingle (s name : Text) (raw? : Option Text) : Prop :=
  ∃ form?, IsAttribute s name form? ∧ Option.Rel IsWritten form? raw?

theorem isNameChar_of_head {after rest : Text} (hafter : isBlankText after = true)
    (hrest : ∀ c ∈ rest.head?, isNameChar c = false) :
    ∀ c ∈ (after ++ rest).head?, isNameChar c = false := by
  cases after with
  | nil => exact hrest
  | cons d after =>
      rintro c ⟨⟩
      exact isNameChar_of_isBlank (List.all_eq_true.mp hafter d List.mem_cons_self)

theorem IsName.trimStart_append {name : Text} (h : IsName name) (rest : Text) :
    trimStart (name ++ rest) = name ++ rest := by
  obtain ⟨hne, hname⟩ := h
  obtain ⟨c, name, rfl⟩ := List.exists_cons_of_ne_nil hne
  apply trimStart_of_first
  rintro d ⟨⟩
  rw [Bool.eq_false_iff]
  intro hblank
  have hc := hname c List.mem_cons_self
  rw [isNameChar_of_isBlank hblank] at hc
  exact absurd hc nofun

/-- The name behind an opening bracket, and what stands behind the blanks after it. -/
def cutName (s : Text) : Text × Text :=
  let body := trimStart s.tail
  (body.takeWhile isNameChar, trimStart (body.dropWhile isNameChar))

/-- What is read as an attribute selector of a name, from behind the name and the blanks
after it. -/
def attributeNamed? (name : Text) : Text → Option Attribute
  | [.char ']'] => some ⟨name, none⟩
  | .char '=' :: body => (attributeValue? body).map fun value => ⟨name, some value⟩
  | _ => none

theorem attribute?_bracket (s : Text) : attribute? ('[' :: s) =
    if (cutName ('[' :: s)).1.isEmpty then none
    else attributeNamed? (cutName ('[' :: s)).1 (cutName ('[' :: s)).2 := rfl

theorem cutName_bracketed {before name after rest : Text} (hbefore : isBlankText before = true)
    (hname : IsName name) (hafter : isBlankText after = true)
    (hrest : ∀ c ∈ rest.head?, isNameChar c = false ∧ isBlank c = false) :
    cutName ('[' :: (before ++ (name ++ (after ++ rest)))) = (name, rest) := by
  have hbody : trimStart (before ++ (name ++ (after ++ rest))) = name ++ (after ++ rest) := by
    rw [trimStart_append hbefore, hname.trimStart_append]
  obtain ⟨htake, hdrop⟩ := takeWhile_append_of_head hname.2
    (isNameChar_of_head hafter fun c hc => (hrest c hc).1)
  rw [cutName, List.tail_cons, hbody, htake, hdrop, trimStart_append hafter,
    trimStart_of_first fun c hc => (hrest c hc).2]

theorem attribute?_bracketed {before name after rest : Text} (hbefore : isBlankText before = true)
    (hname : IsName name) (hafter : isBlankText after = true)
    (hrest : ∀ c ∈ rest.head?, isNameChar c = false ∧ isBlank c = false) :
    attribute? ('[' :: (before ++ (name ++ (after ++ rest)))) = attributeNamed? name rest := by
  have hne : name.isEmpty = false := List.isEmpty_eq_false_iff.mpr hname.1
  rw [attribute?_bracket, cutName_bracketed hbefore hname hafter hrest]
  simp only [hne, Bool.false_eq_true, if_false]

theorem not_isNameChar_bracket :
    ∀ c ∈ ([.char ']'] : Text).head?, isNameChar c = false ∧ isBlank c = false := by
  rintro c ⟨⟩
  decide

theorem not_isNameChar_equals {body : Text} :
    ∀ c ∈ (.char '=' :: body : Text).head?, isNameChar c = false ∧ isBlank c = false := by
  rintro c ⟨⟩
  decide

theorem exists_bracketed {s : Text} {found : Attribute} (h : attribute? s = some found) :
    ∃ before name after rest, isBlankText before = true ∧ IsName name ∧ isBlankText after = true ∧
      s = .char '[' :: (before ++ (name ++ (after ++ rest))) ∧
      attributeNamed? name rest = some found := by
  unfold attribute? at h
  split at h
  · rename_i s
    dsimp only at h
    split at h
    · exact absurd h nofun
    · rename_i hname
      obtain ⟨before, hbefore, hs⟩ := exists_eq_append_trimStart s
      obtain ⟨after, hafter, hrest⟩ := exists_eq_append_trimStart ((trimStart s).dropWhile isNameChar)
      refine ⟨before, (trimStart s).takeWhile isNameChar, after, _, hbefore, ⟨?_, ?_⟩, hafter, ?_, h⟩
      · simpa using hname
      · exact fun c hc => List.mem_takeWhile_imp hc
      · rw [← hrest, List.takeWhile_append_dropWhile, ← hs]
  · exact absurd h nofun

theorem attributeValue?_eq_some_iff {body raw : Text} :
    attributeValue? body = some raw ↔ ∃ inner form last, isBlankText inner = true ∧ IsTrimmed form ∧
      isBlankText last = true ∧ body = inner ++ form ++ last ++ [.char ']'] ∧ raw = unquote form := by
  unfold attributeValue?
  constructor
  · intro h
    split at h
    · rename_i hclosed
      obtain ⟨inner, last, hinner, hlast, hs⟩ := exists_eq_trim body.dropLast
      refine ⟨inner, _, last, hinner, isTrimmed_trim _, hlast, ?_, (Option.some.inj h).symm⟩
      rw [← hs]
      exact (List.dropLast_append_getLast? _ (beq_iff_eq.mp hclosed)).symm
    · exact absurd h nofun
  · rintro ⟨inner, form, last, hinner, hform, hlast, rfl, rfl⟩
    rw [List.getLast?_concat, List.dropLast_concat, trim_surrounded hinner hform hlast]
    rfl

theorem attributeNamed?_eq_some {name rest : Text} {found : Attribute}
    (h : attributeNamed? name rest = some found) :
    found.name = name ∧ (rest = [.char ']'] ∧ found.value? = none ∨
      ∃ body value, rest = .char '=' :: body ∧ attributeValue? body = some value ∧
        found.value? = some value) := by
  unfold attributeNamed? at h
  split at h
  · obtain rfl := Option.some.inj h
    exact ⟨rfl, Or.inl ⟨rfl, rfl⟩⟩
  · obtain ⟨value, hvalue, rfl⟩ := Option.map_eq_some_iff.mp h
    exact ⟨rfl, Or.inr ⟨_, value, rfl, hvalue, rfl⟩⟩
  · exact absurd h nofun

/-- The reader takes every text for an attribute selector that is one up to its value. -/
theorem attribute?_eq_some_iff {s : Text} {found : Attribute} :
    attribute? s = some found ↔
      ∃ form?, IsAttribute s found.name form? ∧ found.value? = form?.map unquote := by
  constructor
  · intro h
    obtain ⟨before, name, after, rest, hbefore, hname, hafter, rfl, hnamed⟩ := exists_bracketed h
    obtain ⟨hfound, ⟨rfl, hvalue⟩ | ⟨body, value, rfl, hbody, hvalue⟩⟩ := attributeNamed?_eq_some hnamed
    · rw [hfound]
      exact ⟨none, .bare hbefore hname hafter, hvalue⟩
    · obtain ⟨inner, form, last, hinner, hform, hlast, rfl, rfl⟩ := attributeValue?_eq_some_iff.mp hbody
      rw [hfound]
      exact ⟨some form, .valued hbefore hname hafter hinner hform hlast, hvalue⟩
  · rintro ⟨form?, hattribute, hvalue⟩
    obtain ⟨name, value?⟩ := found
    obtain rfl : value? = _ := hvalue
    cases hattribute with
    | bare hbefore hname hafter =>
        rw [attribute?_bracketed hbefore hname hafter not_isNameChar_bracket]
        rfl
    | valued hbefore hname hafter hinner hform hlast =>
        have hread := attributeValue?_eq_some_iff.mpr ⟨_, _, _, hinner, hform, hlast, rfl, rfl⟩
        rw [attribute?_bracketed hbefore hname hafter not_isNameChar_equals, attributeNamed?, hread]
        rfl

/-- The value as it is written, from behind the name and the blanks after it. -/
def form? : Text → Option Text
  | .char '=' :: body => some (trim body.dropLast)
  | _ => none

theorem IsAttribute.cut {s name : Text} {written? : Option Text} (h : IsAttribute s name written?) :
    (cutName s).1 = name ∧ form? (cutName s).2 = written? := by
  cases h with
  | bare hbefore hname hafter =>
      rw [cutName_bracketed hbefore hname hafter not_isNameChar_bracket]
      exact ⟨rfl, rfl⟩
  | valued hbefore hname hafter hinner hform hlast =>
      rw [cutName_bracketed hbefore hname hafter not_isNameChar_equals, form?, List.dropLast_concat,
        trim_surrounded hinner hform hlast]
      exact ⟨rfl, rfl⟩

theorem IsAttribute.unique {s name name' : Text} {written? written?' : Option Text}
    (h : IsAttribute s name written?) (h' : IsAttribute s name' written?') :
    name' = name ∧ written?' = written? :=
  ⟨h'.cut.1.symm.trans h.cut.1, h'.cut.2.symm.trans h.cut.2⟩

theorem unquote_quoted {quote : CodePoint} (hquote : isQuote quote = true) (raw : Text) :
    unquote (quote :: (raw ++ [quote])) = raw := by
  have hlast : (raw ++ [quote]).getLast? = some quote := List.getLast?_concat
  rw [isQuote] at hquote
  simp only [unquote, hquote, hlast, beq_self_eq_true, Bool.and_self, if_true,
    List.dropLast_concat]

theorem IsWritten.unquote_eq {form raw : Text} (h : IsWritten form raw) : unquote form = raw := by
  cases h with
  | quoted hquote hraw => exact unquote_quoted hquote raw
  | plain hraw =>
      cases form with
      | nil => rfl
      | cons c rest =>
          have hc := (hraw c List.mem_cons_self).2.1
          rw [isQuote] at hc
          simp only [unquote, hc, Bool.false_and, Bool.false_eq_true, if_false]

theorem exists_isWritten_quoted_iff {quote : CodePoint} {raw : Text} (hquote : isQuote quote = true) :
    (∃ raw', IsWritten (quote :: (raw ++ [quote])) raw') ↔ standsFree quote raw = false := by
  constructor
  · rintro ⟨raw', h⟩
    generalize hform : quote :: (raw ++ [quote]) = form at h
    cases h with
    | quoted hquote' hraw =>
        obtain ⟨rfl, htail⟩ := List.cons.inj hform
        rwa [List.append_cancel_right htail]
    | plain hraw =>
        have hplain := (hraw quote (hform ▸ List.mem_cons_self)).2.1
        exact absurd (hplain.symm.trans hquote) nofun
  · exact fun hraw => ⟨raw, .quoted hquote hraw⟩

theorem IsAttribute.head?_eq {s name : Text} {written? : Option Text}
    (h : IsAttribute s name written?) : s.head? = some (.char '[') := by
  cases h <;> rfl

theorem IsAttribute.getLast?_eq {s name : Text} {written? : Option Text}
    (h : IsAttribute s name written?) : s.getLast? = some (.char ']') := by
  cases h <;> simp [List.getLast?_cons]

theorem isTrimmed_of_brackets {s : Text} (hfirst : s.head? = some (.char '['))
    (hlast : s.getLast? = some (.char ']')) : IsTrimmed s where
  first c hc := by
    obtain rfl := Option.some.inj (hfirst.symm.trans hc)
    rfl
  last c hc := by
    obtain rfl := Option.some.inj (hlast.symm.trans hc)
    rfl

theorem IsAttribute.attribute?_eq {s name : Text} {written? : Option Text}
    (h : IsAttribute s name written?) : attribute? s = some ⟨name, written?.map unquote⟩ :=
  attribute?_eq_some_iff.mpr ⟨written?, h, rfl⟩

theorem IsAttribute.attribute?_append {s name more : Text} (h : IsAttribute s name none)
    (hmore : more ≠ []) : attribute? (s ++ more) = none := by
  cases h with
  | @bare before name after hbefore hname hafter =>
      have hs : .char '[' :: (before ++ (name ++ (after ++ [.char ']']))) ++ more =
          .char '[' :: (before ++ (name ++ (after ++ .char ']' :: more))) := by
        simp only [List.cons_append, List.append_assoc, List.nil_append]
      rw [hs, attribute?_bracketed hbefore hname hafter (by rintro c ⟨⟩; decide)]
      cases more with
      | nil => exact absurd rfl hmore
      | cons c more => rfl

theorem IsAttribute.append {s name form more : Text} (h : IsAttribute s name (some form))
    (hmore : more.getLast? = some (.char ']')) :
    ∃ form', IsAttribute (s ++ more) name (some form') := by
  obtain ⟨init, rfl⟩ := List.getLast?_eq_some_iff.mp hmore
  cases h with
  | @valued before name after inner form last hbefore hname hafter hinner hform hlast =>
      let body : Text := inner ++ form ++ last ++ [.char ']'] ++ init
      obtain ⟨first, final, hfirst, hfinal, hbody⟩ := exists_eq_trim body
      have h' := IsAttribute.valued hbefore hname hafter hfirst (isTrimmed_trim body) hfinal
      rw [← hbody] at h'
      exact ⟨trim body, by simpa only [body, List.append_assoc, List.cons_append] using h'⟩

/-- The kind of the selector is that of an attribute in brackets, not of a mark in front. -/
def HasAttributeKind (s : Text) : Prop :=
  kind s = .testId ∨ kind s = .ariaLabel ∨ kind s = .attribute ∨
    kind s = .role ∧ roleMark.isPrefixOf (trim s) = false

theorem ofTrimmed_bracket (s : Text) : Kind.ofTrimmed ('[' :: s) =
    match attribute? ('[' :: s) with
    | some found => Kind.ofAttributeName found.name
    | none => .css := by
  have hid : isIdForm ('[' :: s) = false := rfl
  have hclass : isClassForm ('[' :: s) = false := rfl
  have hrole : roleMark.isPrefixOf ('[' :: s) = false := rfl
  have htext : textMark.isPrefixOf ('[' :: s) = false := rfl
  cases hread : attribute? ('[' :: s) with
  | some found => simp [Kind.ofTrimmed, hrole, htext, hread]
  | none => simp [Kind.ofTrimmed, hid, hclass, hrole, htext, hread]

theorem IsAttribute.kind_eq {s name : Text} {written? : Option Text}
    (h : IsAttribute (trim s) name written?) : kind s = .ofAttributeName name := by
  obtain ⟨rest, hs⟩ := List.head?_eq_some_iff.mp h.head?_eq
  have hread := h.attribute?_eq
  rw [hs] at hread
  rw [kind, hs, ofTrimmed_bracket, hread]

theorem IsAttribute.value?_eq {s name : Text} {written? : Option Text}
    (h : IsAttribute (trim s) name written?) :
    value? s = written?.map fun form => unescape (unquote form) := by
  rw [value?, h.attribute?_eq, Option.bind_some, Option.map_map]
  rfl

theorem ofAttributeName_cases (name : Text) : Kind.ofAttributeName name = .testId ∨
    Kind.ofAttributeName name = .ariaLabel ∨ Kind.ofAttributeName name = .attribute ∨
    Kind.ofAttributeName name = .role := by
  unfold Kind.ofAttributeName
  dsimp only
  split
  · exact Or.inl rfl
  · split
    · exact Or.inr (Or.inl rfl)
    · split <;> simp

theorem IsAttribute.hasAttributeKind {s name : Text} {written? : Option Text}
    (h : IsAttribute (trim s) name written?) : HasAttributeKind s := by
  obtain ⟨rest, hs⟩ := List.head?_eq_some_iff.mp h.head?_eq
  have hrole : roleMark.isPrefixOf (trim s) = false := by
    rw [hs]
    rfl
  unfold HasAttributeKind
  rw [h.kind_eq, hrole]
  simpa using ofAttributeName_cases name

theorem HasAttributeKind.exists_isAttribute {s : Text} (h : HasAttributeKind s) :
    ∃ name written?, IsAttribute (trim s) name written? := by
  cases hread : attribute? (trim s) with
  | some found =>
      obtain ⟨written?, hattribute, -⟩ := attribute?_eq_some_iff.mp hread
      exact ⟨found.name, written?, hattribute⟩
  | none =>
      exfalso
      cases hrole : roleMark.isPrefixOf (trim s) with
      | true =>
          simp only [HasAttributeKind, kind, Kind.ofTrimmed, hrole, if_true] at h
          simp at h
      | false =>
          simp only [HasAttributeKind, kind, Kind.ofTrimmed, hrole, hread, Bool.false_eq_true,
            if_false] at h
          split_ifs at h <;> simp at h

theorem IsSingle.exists_isAttribute {s name : Text} {raw? : Option Text} (h : IsSingle s name raw?) :
    ∃ written?, IsAttribute s name written? ∧ written?.map unquote = raw? := by
  obtain ⟨written?, hattribute, hwritten⟩ := h
  refine ⟨written?, hattribute, ?_⟩
  cases hwritten with
  | some hform => exact congrArg some hform.unquote_eq
  | none => rfl

theorem IsAttribute.isSingle_iff {s name : Text} {written? : Option Text}
    (h : IsAttribute s name written?) :
    (∃ name' raw?, IsSingle s name' raw?) ↔ ∀ form ∈ written?, ∃ raw, IsWritten form raw := by
  constructor
  · rintro ⟨name', raw?, written?', hattribute, hwritten⟩
    obtain ⟨rfl, rfl⟩ := h.unique hattribute
    rintro form rfl
    cases hwritten with
    | some hform => exact ⟨_, hform⟩
  · intro hwritten
    cases written? with
    | none => exact ⟨name, none, none, h, .none⟩
    | some form =>
        obtain ⟨raw, hraw⟩ := hwritten form rfl
        exact ⟨name, some raw, some form, h, .some hraw⟩

theorem trim_between {s more name name' : Text} {written? written?' : Option Text}
    (h : IsAttribute s name written?) (hmore : IsAttribute more name' written?') (between : Text) :
    trim (s ++ between ++ more) = s ++ (between ++ more) := by
  have hfirst : (s ++ (between ++ more)).head? = some (.char '[') := by
    rw [List.head?_append, h.head?_eq]
    rfl
  have hlast : (s ++ (between ++ more)).getLast? = some (.char ']') := by
    rw [List.getLast?_append, List.getLast?_append, hmore.getLast?_eq]
    rfl
  rw [List.append_assoc, (isTrimmed_of_brackets hfirst hlast).trim_eq]

/-- A text has the kind of an attribute if, and only if, it is an attribute selector up to its
value, which can be anything; it is one selector if, and only if, that value is written as
values are.  Two selectors after one another are read as one that goes on to the last bracket,
unless the first has no value. -/
theorem hasAttributeKind_iff (s : Text) :
    (∀ value, value? s = some value → HasAttributeKind s) ∧
    (HasAttributeKind s ↔ ∃ name written?, IsAttribute (trim s) name written?) ∧
    (∀ name written?, IsAttribute (trim s) name written? →
      ((∃ name' raw?, IsSingle (trim s) name' raw?) ↔ ∀ form ∈ written?, ∃ raw, IsWritten form raw)) ∧
    (∀ name raw?, IsSingle (trim s) name raw? →
      kind s = .ofAttributeName name ∧ value? s = raw?.map unescape) ∧
    ∀ name raw? between other name' raw?', IsSingle s name raw? → IsSingle other name' raw?' →
      (raw? = none → kind (s ++ between ++ other) = .css ∧ value? (s ++ between ++ other) = none) ∧
      (raw? ≠ none → kind (s ++ between ++ other) = .ofAttributeName name ∧
        value? (s ++ between ++ other) ≠ none) := by
  refine ⟨?_, ⟨HasAttributeKind.exists_isAttribute, ?_⟩, fun name written? h => h.isSingle_iff, ?_, ?_⟩
  · intro value hvalue
    obtain ⟨raw, hraw, -⟩ := Option.map_eq_some_iff.mp hvalue
    obtain ⟨found, hfound, -⟩ := Option.bind_eq_some_iff.mp hraw
    obtain ⟨written?, hattribute, -⟩ := attribute?_eq_some_iff.mp hfound
    exact hattribute.hasAttributeKind
  · rintro ⟨name, written?, hattribute⟩
    exact hattribute.hasAttributeKind
  · intro name raw? hsingle
    obtain ⟨written?, hattribute, rfl⟩ := hsingle.exists_isAttribute
    refine ⟨hattribute.kind_eq, ?_⟩
    rw [hattribute.value?_eq, Option.map_map]
    rfl
  · intro name raw? between other name' raw?' hsingle hother
    obtain ⟨written?, hattribute, rfl⟩ := hsingle.exists_isAttribute
    obtain ⟨written?', hmore, -⟩ := hother.exists_isAttribute
    have htrim := trim_between hattribute hmore between
    have hlast : (between ++ other).getLast? = some (.char ']') := by
      rw [List.getLast?_append, hmore.getLast?_eq]
      rfl
    cases written? with
    | none =>
        have hread : attribute? (s ++ (between ++ other)) = none :=
          hattribute.attribute?_append fun hnil => by simp [hnil] at hlast
        obtain ⟨rest, hs⟩ := List.head?_eq_some_iff.mp hattribute.head?_eq
        refine ⟨fun _ => ⟨?_, ?_⟩, fun h => absurd rfl h⟩
        · rw [kind, htrim]
          rw [hs, List.cons_append] at hread ⊢
          rw [ofTrimmed_bracket, hread]
        · rw [value?, htrim, hread]
          rfl
    | some form =>
        obtain ⟨form', hlong⟩ := hattribute.append hlast
        rw [← htrim] at hlong
        refine ⟨fun h => absurd h nofun, fun _ => ⟨hlong.kind_eq, ?_⟩⟩
        rw [hlong.value?_eq]
        exact nofun

theorem isAttribute_quoted {name : Text} (hname : IsName name) (raw : Text) :
    IsAttribute ("[" ++ name ++ "=\"" ++ raw ++ "\"]") name
      (some (CodePoint.char '"' :: (raw ++ [CodePoint.char '"']))) := by
  have hform : IsTrimmed (.char '"' :: (raw ++ [.char '"'])) := by
    constructor
    · rintro c ⟨⟩
      decide
    · rw [← List.cons_append, List.getLast?_concat]
      rintro c ⟨⟩
      decide
  have h := @IsAttribute.valued [] name [] [] _ [] rfl hname rfl rfl hform rfl
  have hs : ("[" ++ name ++ "=\"" ++ raw ++ "\"]" : Text) = CodePoint.char '[' :: ([] ++ (name ++ ([] ++
      CodePoint.char '=' :: ([] ++ (CodePoint.char '"' :: (raw ++ [CodePoint.char '"'])) ++ [] ++
        [CodePoint.char ']'])))) := by
    simp [Text.ofString]
  rwa [hs]

theorem isSingle_quoted {name raw : Text} (hname : IsName name) (hraw : standsFree '"' raw = false) :
    IsSingle ("[" ++ name ++ "=\"" ++ raw ++ "\"]") name (some raw) :=
  ⟨_, isAttribute_quoted hname raw, .some (.quoted rfl hraw)⟩

/-- A test id and a role in one selector are read as a test id whose value goes on to the end
of the role. -/
theorem kind_testIdAndRole :
    IsSingle "[data-testid=\"row\"]" "data-testid" (some "row") ∧
      IsSingle "[role=\"button\"]" "role" (some "button") ∧
      (¬ ∃ name raw?, IsSingle (trim "[data-testid=\"row\"][role=\"button\"]") name raw?) ∧
      kind "[data-testid=\"row\"][role=\"button\"]" = .testId ∧
      value? "[data-testid=\"row\"][role=\"button\"]" = some "row\"][role=\"button" := by
  have htestId : IsName "data-testid" := ⟨by decide, by decide +kernel⟩
  have hrole : IsName "role" := ⟨by decide, by decide +kernel⟩
  have hboth := isAttribute_quoted htestId "row\"][role=\"button"
  refine ⟨@isSingle_quoted _ "row" htestId (by decide), @isSingle_quoted _ "button" hrole (by decide),
    ?_, by decide +kernel, by decide +kernel⟩
  have htrim : trim "[data-testid=\"row\"][role=\"button\"]" =
      "[data-testid=\"row\"][role=\"button\"]" := by decide
  rw [htrim]
  intro hsingle
  have hwritten := hboth.isSingle_iff.mp hsingle _ rfl
  exact absurd ((exists_isWritten_quoted_iff rfl).mp hwritten) (by decide)

end Selector

end PageScript
