import PageScript.Name
/-!
Names that carry a mark where they differ from their text.  A text has a stem, and a base is made
of it; the name is the base, followed by the digest of the text unless the base is the stem.  Of
two names that are equal, either both are stems, or both have a digest, or one text spells the
base and the digest of the other one.
-/

namespace PageScript.Name

variable {stem base : Text → Text} {text v w : Text}

/-- The base that is made of a text, with a digest unless it is the stem. -/
def marked (stem base : Text → Text) (text : Text) : Text :=
  base text ++ if base text = stem text then [] else digestSuffix text

/-- The stem of `v` is the name that `w` has with its digest. -/
def SpellsMarked (stem base : Text → Text) (v w : Text) : Prop :=
  base w ≠ stem w ∧ stem v = base w ++ digestSuffix w

instance (stem base : Text → Text) (v w : Text) : Decidable (SpellsMarked stem base v w) :=
  inferInstanceAs (Decidable (_ ∧ _))

/-- One of the texts spells the name that the other one has with its digest. -/
def OneSpells (stem base : Text → Text) (v w : Text) : Prop :=
  SpellsMarked stem base v w ∨ SpellsMarked stem base w v

instance (stem base : Text → Text) (v w : Text) : Decidable (OneSpells stem base v w) :=
  inferInstanceAs (Decidable (_ ∨ _))

@[simp] theorem length_digestSuffix (text : Text) : (digestSuffix text).length = 9 := by
  rw [digestSuffix, List.length_append, Digest.length_short]
  rfl

theorem marked_of_eq (h : base text = stem text) : marked stem base text = stem text := by
  rw [marked, if_pos h, List.append_nil, h]

theorem marked_of_ne (h : base text ≠ stem text) :
    marked stem base text = base text ++ digestSuffix text := by
  rw [marked, if_neg h]

theorem append_digestSuffix_eq_iff {front other : Text} :
    front ++ digestSuffix v = other ++ digestSuffix w ↔
      front = other ∧ Digest.short v = Digest.short w := by
  constructor
  · intro h
    have hlength : (digestSuffix v).length = (digestSuffix w).length := by simp
    obtain ⟨hfront, hsuffix⟩ := List.append_inj' h hlength
    exact ⟨hfront, List.append_cancel_left hsuffix⟩
  · rintro ⟨rfl, hdigest⟩
    rw [digestSuffix, digestSuffix, hdigest]

theorem marked_eq_iff :
    marked stem base v = marked stem base w ↔
      (base v = stem v ∧ base w = stem w ∧ stem v = stem w) ∨
      (base v ≠ stem v ∧ base w ≠ stem w ∧ base v = base w ∧ Digest.short v = Digest.short w) ∨
      (base v = stem v ∧ SpellsMarked stem base v w) ∨
      (base w = stem w ∧ SpellsMarked stem base w v) := by
  by_cases hv : base v = stem v <;> by_cases hw : base w = stem w
  · rw [marked_of_eq hv, marked_of_eq hw]
    simp [SpellsMarked, hv, hw]
  · rw [marked_of_eq hv, marked_of_ne hw]
    simp [SpellsMarked, hv, hw]
  · rw [marked_of_ne hv, marked_of_eq hw, eq_comm]
    simp [SpellsMarked, hv, hw]
  · rw [marked_of_ne hv, marked_of_ne hw, append_digestSuffix_eq_iff]
    simp [hv, hw]

/-- If a stem with a digest is always kept, then texts with different stems and different digests
have one name only if one of them spells the name of the other. -/
theorem marked_eq_iff_spells
    (hkept : ∀ {v w : Text}, stem v = base w ++ digestSuffix w → base v = stem v)
    (hstem : stem v ≠ stem w) (hdigest : Digest.short v ≠ Digest.short w) :
    marked stem base v = marked stem base w ↔ OneSpells stem base v w := by
  rw [marked_eq_iff]
  constructor
  · rintro (⟨-, -, hsame⟩ | ⟨-, -, -, hsame⟩ | ⟨-, hspells⟩ | ⟨-, hspells⟩)
    · exact absurd hsame hstem
    · exact absurd hsame hdigest
    · exact .inl hspells
    · exact .inr hspells
  · rintro (hspells | hspells)
    · exact .inr (.inr (.inl ⟨hkept hspells.2, hspells⟩))
    · exact .inr (.inr (.inr ⟨hkept hspells.2, hspells⟩))

theorem uniqueModuleName_eq_marked (text : Text) :
    uniqueModuleName text = marked id moduleName text := by
  unfold uniqueModuleName marked
  simp only [beq_iff_eq, id_eq]
  split <;> simp

theorem identifier_eq_marked (htext : text ≠ "") (fallback : Text) :
    identifier text fallback = marked id cleaned text := by
  unfold identifier marked
  simp only [beq_iff_eq, id_eq, if_neg htext]
  split <;> simp

end PageScript.Name
