import PageScript.Proofs.RoleSyntax

namespace PageScript.Selector

open Text

/-- The id that a selector is read as: what stands behind the number sign if its kind is that of
an id, and otherwise the value of its attribute. -/
def DenotesId (selector id : Text) : Prop :=
  if kind selector = .id then trim selector = .char '#' :: id else value? selector = some id

instance (selector id : Text) : Decidable (DenotesId selector id) :=
  inferInstanceAs (Decidable (if kind selector = .id then trim selector = .char '#' :: id
    else value? selector = some id))

/-- An identifier with one line end behind it. -/
def IsIdentifierLine (id : Text) : Prop :=
  ∃ name, isIdentifier name = true ∧ id = name ++ [.char '\n']

theorem isName_of_isIdentifier {name : Text} (h : isIdentifier name = true) : IsName name := by
  cases name with
  | nil => exact absurd h (by decide)
  | cons c rest =>
      simp only [isIdentifier, Bool.and_eq_true, Bool.or_eq_true, beq_iff_eq] at h
      obtain ⟨hfirst, hrest⟩ := h
      refine ⟨List.cons_ne_nil c rest, List.forall_mem_cons.mpr ⟨?_, List.all_eq_true.mp hrest⟩⟩
      rcases hfirst with hletter | rfl
      · have halnum : isAsciiAlnum c = true := by
          simp only [isLetter, Bool.or_eq_true] at hletter
          simp only [isAsciiAlnum, Bool.or_eq_true]
          tauto
        rw [isNameChar, isWordChar_of_isAsciiAlnum halnum, Bool.true_or]
      · decide +kernel

theorem isIdentifierLine_iff {id : Text} : IsIdentifierLine id ↔
    (id.getLast? == some (.char '\n') && isIdentifier id.dropLast) = true := by
  rw [Bool.and_eq_true, beq_iff_eq]
  constructor
  · rintro ⟨name, hname, rfl⟩
    rw [List.dropLast_concat]
    exact ⟨List.getLast?_concat, hname⟩
  · rintro ⟨hlast, hname⟩
    exact ⟨id.dropLast, hname, (List.dropLast_append_getLast? _ hlast).symm⟩

theorem ofId_of_short {id : Text} (h : isIdentifier id = true ∨ IsIdentifierLine id) :
    ofId id = .char '#' :: id := by
  have hshort : (isIdentifier id ||
      (id.getLast? == some (.char '\n') && isIdentifier id.dropLast)) = true := by
    rwa [Bool.or_eq_true, ← isIdentifierLine_iff]
  exact if_pos hshort

theorem ofId_of_long {id : Text} (hid : isIdentifier id = false) (hline : ¬ IsIdentifierLine id) :
    ofId id = ofAttribute "id" id := by
  have hlong : ¬ (isIdentifier id ||
      (id.getLast? == some (.char '\n') && isIdentifier id.dropLast)) = true := by
    rw [Bool.or_eq_true, ← isIdentifierLine_iff, hid]
    exact fun h => h.elim nofun hline
  exact if_neg hlong

theorem isBlankText_nil : isBlankText [] = true := rfl

theorem ofTrimmed_numberSign {name : Text} (hname : isIdentifier name = true) :
    Kind.ofTrimmed (.char '#' :: name) = .id := by
  have hid : isIdForm (.char '#' :: name) = true := hname
  have hread : attribute? (.char '#' :: name) = none := rfl
  have hrole : roleMark.isPrefixOf (.char '#' :: name) = false := rfl
  have htext : textMark.isPrefixOf (.char '#' :: name) = false := rfl
  simp only [Kind.ofTrimmed, hrole, htext, hread, hid, Bool.false_eq_true, if_false, if_true]

/-- Blanks behind the identifier do not belong to the selector. -/
theorem trim_numberSign {name after : Text} (hname : isIdentifier name = true)
    (hafter : isBlankText after = true) :
    trim (.char '#' :: (name ++ after)) = .char '#' :: name := by
  have hsign : IsTrimmed [.char '#'] := ⟨by decide, by decide⟩
  exact trim_surrounded isBlankText_nil
    (hsign.append (isName_of_isIdentifier hname).isTrimmed) hafter

theorem kind_numberSign {name after : Text} (hname : isIdentifier name = true)
    (hafter : isBlankText after = true) : kind (.char '#' :: (name ++ after)) = .id := by
  rw [kind, trim_numberSign hname hafter, ofTrimmed_numberSign hname]

theorem value?_numberSign {name after : Text} (hname : isIdentifier name = true)
    (hafter : isBlankText after = true) : value? (.char '#' :: (name ++ after)) = none := by
  rw [value?, trim_numberSign hname hafter]
  rfl

theorem isName_id : IsName "id" := ⟨by decide, by decide +kernel⟩

theorem kind_ofAttribute_id (id : Text) : kind (ofAttribute "id" id) = .attribute := by
  have hsmall : Kind.ofSmallName (Text.lower "id") = .attribute := by decide +kernel
  rw [kind_ofAttribute isName_id, hsmall]

theorem isStable_ofId (id : Text) : isStable (ofId id) = false := by
  by_cases hid : isIdentifier id = true
  · have hkind := kind_numberSign hid isBlankText_nil
    rw [List.append_nil] at hkind
    rw [isStable, ofId_of_short (.inl hid), hkind]
    rfl
  · by_cases hline : IsIdentifierLine id
    · obtain ⟨name, hname, rfl⟩ := hline
      rw [isStable, ofId_of_short (.inr ⟨name, hname, rfl⟩), kind_numberSign hname rfl]
      rfl
    · rw [isStable, ofId_of_long (Bool.eq_false_iff.mpr hid) hline, kind_ofAttribute_id]
      rfl

/-- The selector that is made of an id is read as that id if, and only if, the id is not an
identifier with a line end behind it.  An identifier stands behind a number sign, also with the
line end, but is read without it; every other id is the escaped value of an attribute. -/
theorem ofId_denotesId_iff (id : Text) :
    (DenotesId (ofId id) id ↔ ¬ IsIdentifierLine id) ∧
    (isIdentifier id = true → ofId id = .char '#' :: id ∧ kind (ofId id) = .id ∧
      trim (ofId id) = .char '#' :: id) ∧
    (∀ name, isIdentifier name = true → id = name ++ [.char '\n'] →
      ofId id = .char '#' :: id ∧ kind (ofId id) = .id ∧ trim (ofId id) = .char '#' :: name ∧
        value? (ofId id) = none) ∧
    (isIdentifier id = false → ¬ IsIdentifierLine id →
      IsSingle (ofId id) "id" (some (escape id)) ∧ kind (ofId id) = .attribute ∧
        value? (ofId id) = some id) := by
  have hshort : isIdentifier id = true → ofId id = .char '#' :: id ∧ kind (ofId id) = .id ∧
      trim (ofId id) = .char '#' :: id := by
    intro hid
    have hkind := kind_numberSign hid isBlankText_nil
    have htrim := trim_numberSign hid isBlankText_nil
    rw [List.append_nil] at hkind htrim
    rw [ofId_of_short (.inl hid)]
    exact ⟨rfl, hkind, htrim⟩
  have hended : ∀ name, isIdentifier name = true → id = name ++ [.char '\n'] →
      ofId id = .char '#' :: id ∧ kind (ofId id) = .id ∧ trim (ofId id) = .char '#' :: name ∧
        value? (ofId id) = none := by
    rintro name hname rfl
    rw [ofId_of_short (.inr ⟨name, hname, rfl⟩)]
    exact ⟨rfl, kind_numberSign hname rfl, trim_numberSign hname rfl, value?_numberSign hname rfl⟩
  have hlong : isIdentifier id = false → ¬ IsIdentifierLine id →
      IsSingle (ofId id) "id" (some (escape id)) ∧ kind (ofId id) = .attribute ∧
        value? (ofId id) = some id := by
    intro hid hline
    obtain ⟨hsingle, hvalue, -⟩ := ofAttribute_readsBack isName_id id
    rw [ofId_of_long hid hline]
    exact ⟨hsingle, kind_ofAttribute_id id, hvalue⟩
  refine ⟨⟨?_, ?_⟩, hshort, hended, hlong⟩
  · rintro hdenotes ⟨name, hname, hline⟩
    obtain ⟨-, hkind, htrim, -⟩ := hended name hname hline
    rw [DenotesId, if_pos hkind, htrim, hline] at hdenotes
    exact absurd (List.cons.inj hdenotes).2 (by simp)
  · intro hline
    cases hid : isIdentifier id with
    | true =>
        obtain ⟨-, hkind, htrim⟩ := hshort hid
        rwa [DenotesId, if_pos hkind]
    | false =>
        obtain ⟨-, hkind, hvalue⟩ := hlong hid hline
        have hother : kind (ofId id) ≠ .id := by
          rw [hkind]
          decide
        rwa [DenotesId, if_neg hother]

/-- The line end of an id is lost, and its selector is read as that of the identifier before. -/
theorem ofId_userLine :
    isBlankText "user\n" = false ∧ isIdentifier "user\n" = false ∧ ofId "user\n" = "#user\n" ∧
      kind (ofId "user\n") = .id ∧ ¬ DenotesId (ofId "user\n") "user\n" ∧
      DenotesId (ofId "user\n") "user" := by
  have hid : ofId "user\n" = "#user\n" := by decide +kernel
  have hkind : kind "#user\n" = .id := by decide +kernel
  have htrim : trim "#user\n" = "#user" := by decide
  rw [hid]
  refine ⟨by decide, by decide +kernel, rfl, hkind, ?_, ?_⟩
  · rw [DenotesId, if_pos hkind, htrim]
    decide
  · rw [DenotesId, if_pos hkind, htrim]
    rfl

end PageScript.Selector
