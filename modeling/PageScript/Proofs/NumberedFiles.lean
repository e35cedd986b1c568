import Mathlib.Data.List.TakeWhile
import PageScript.Proofs.MarkedNames
import PageScript.Proofs.SharedMethods
import PageScript.Run

namespace PageScript

namespace Name

/-- Texts that get the same name for a module: one text, two that differ from their
names and agree in name and digest, or a text that spells the name of another one. -/
inductive AreNamedAlike : Text → Text → Prop where
  | same (text : Text) : AreNamedAlike text text
  | digests {v w : Text} (hv : moduleName v ≠ v) (hw : moduleName w ≠ w)
      (hname : moduleName v = moduleName w) (hdigest : Digest.short v = Digest.short w) :
      AreNamedAlike v w
  | spells {v w : Text} (hv : moduleName v = v) (hw : moduleName w ≠ w)
      (hspelled : v = moduleName w ++ digestSuffix w) : AreNamedAlike v w
  | isSpelled {v w : Text} (hv : moduleName v ≠ v) (hw : moduleName w = w)
      (hspelled : w = moduleName v ++ digestSuffix v) : AreNamedAlike v w

theorem isSome_hexValue?_of_mem_hex {width n : Nat} {c : CodePoint} (hc : c ∈ Text.hex width n) :
    (Text.hexValue? c).isSome = true := by
  obtain ⟨digit, hdigit, rfl⟩ := Text.exists_hexDigit_of_mem_hex hc
  rw [Text.hexValue?_hexDigit hdigit]
  rfl

theorem not_mem_digestSuffix (text : Text) : CodePoint.char 'p' ∉ digestSuffix text := by
  intro hmem
  rcases List.mem_append.mp hmem with hmark | hdigit
  · exact absurd hmark (by decide)
  · exact absurd (isSome_hexValue?_of_mem_hex hdigit) (by decide)

theorem append_digestSuffix_ne_page (front text base : Text) :
    front ++ digestSuffix text ≠ base ++ "_page" := by
  intro h
  have hpage : ("_page" : Text) <:+ digestSuffix text :=
    List.suffix_of_suffix_length_le (List.suffix_append base _) ⟨front, h⟩
      (by rw [length_digestSuffix]; decide)
  exact not_mem_digestSuffix text (hpage.mem (by decide))

theorem uniqueModuleName_eq_iff {v w : Text} :
    uniqueModuleName v = uniqueModuleName w ↔ AreNamedAlike v w := by
  rw [uniqueModuleName_eq_marked, uniqueModuleName_eq_marked, marked_eq_iff]
  constructor
  · rintro (⟨-, -, hsame⟩ | ⟨hv, hw, hname, hdigest⟩ | ⟨hv, hw, hspelled⟩ | ⟨hw, hv, hspelled⟩)
    · obtain rfl : v = w := hsame
      exact .same v
    · exact .digests hv hw hname hdigest
    · exact .spells hv hw hspelled
    · exact .isSpelled hv hw hspelled
  · rintro (_ | ⟨hv, hw, hname, hdigest⟩ | ⟨hv, hw, hspelled⟩ | ⟨hv, hw, hspelled⟩)
    · exact marked_eq_iff.mp rfl
    · exact .inr (.inl ⟨hv, hw, hname, hdigest⟩)
    · exact .inr (.inr (.inl ⟨hv, hw, hspelled⟩))
    · exact .inr (.inr (.inr ⟨hw, hv, hspelled⟩))

example : uniqueModuleName "Log in" = uniqueModuleName "log_in_f7c400ed" := by decide +kernel

theorem withoutSuffix_append (suffix s : Text) : withoutSuffix suffix (s ++ suffix) = s := by
  rw [withoutSuffix, if_pos (List.isSuffixOf_iff_suffix.mpr (List.suffix_append s suffix)),
    List.length_append, Nat.add_sub_cancel_right, List.take_left]

theorem withoutSuffix_of_not_suffix {suffix s : Text} (h : ¬ suffix <:+ s) :
    withoutSuffix suffix s = s := by
  rw [withoutSuffix, if_neg (fun hsuffix => h (List.isSuffixOf_iff_suffix.mp hsuffix))]

theorem eq_of_append_stop {a b s t : Text} (hs : CodePoint.char '.' ∉ s)
    (ht : CodePoint.char '.' ∉ t) (h : a ++ "." ++ s = b ++ "." ++ t) : s = t := by
  have hend {c u : Text} (hu : CodePoint.char '.' ∉ u) :
      (c ++ "." ++ u).reverse.takeWhile (· != .char '.') = u.reverse := by
    rw [List.reverse_append, List.takeWhile_append_of_pos, List.reverse_append]
    · exact List.append_nil _
    · intro x hx
      exact bne_iff_ne.mpr fun heq => hu (heq ▸ List.mem_reverse.mp hx)
  have hreverse := hend (c := a) hs
  rw [h, hend ht] at hreverse
  exact (List.reverse_injective hreverse).symm

/-- Only what comes before a number decides whether the name of a test begins in front
of it, as there is an underscore right before the number. -/
theorem isPrefixOf_numbered (front rest : Text) :
    ("test_" : Text).isPrefixOf (front ++ "_" ++ rest) =
      ("test_" : Text).isPrefixOf (front ++ "_") := by
  rw [Bool.eq_iff_iff, List.isPrefixOf_iff_prefix, List.isPrefixOf_iff_prefix]
  constructor
  · intro hwhole
    rcases List.prefix_or_prefix_of_prefix hwhole (List.prefix_append _ rest) with hfront | hshort
    · exact hfront
    · -- What is shorter than `test_` has no underscore.
      have hunits : front ++ [.char '_'] <+: ("test" : Text) ++ [.char '_'] := hshort
      rcases List.prefix_concat_iff.mp hunits with heq | hprefix
      · exact heq.symm ▸ List.prefix_refl (("test" : Text) ++ [.char '_'])
      · have hmem : CodePoint.char '_' ∈ ("test" : Text) :=
          hprefix.mem (List.mem_append_right _ List.mem_cons_self)
        exact absurd hmem (by decide)
  · intro hfront
    exact hfront.trans (List.prefix_append _ _)

/-- What the name of a test file begins with, in front of its cleaned stem. -/
def testMark (stem : Text) : Text :=
  if ("test_" : Text).isPrefixOf (cleaned stem) then [] else "test_"

/-- The cleaned stem of a file name, with the beginning of a test's name. -/
def testBase (text : Text) : Text :=
  testMark (withoutSuffix fileSuffix text) ++ cleaned (withoutSuffix fileSuffix text)

theorem fileName_eq_marked {text : Text} (htext : text ≠ "") (fallback : Text) :
    fileName text fallback = marked (withoutSuffix fileSuffix) testBase text ++ fileSuffix := by
  unfold fileName marked testBase testMark
  rw [if_neg (fun hempty => htext (beq_iff_eq.mp hempty))]
  by_cases hmark : ("test_" : Text).isPrefixOf (cleaned (withoutSuffix fileSuffix text)) = true <;>
    simp only [hmark, beq_iff_eq, if_true, Bool.false_eq_true, if_false, List.nil_append]

/-- A text that is the name of a test as it stands. -/
structure IsTestName (s : Text) : Prop where
  safe : IsSafeText s
  begins : ("test_" : Text) <+: s

theorem isTestName_testBase (text : Text) : IsTestName (testBase text) := by
  unfold testBase testMark
  constructor
  · apply IsSafeText.append
    · split <;> decide
    · exact isSafeText_cleaned _
  · split
    · rename_i hprefix
      exact List.isPrefixOf_iff_prefix.mp hprefix
    · exact List.prefix_append _ _

theorem testBase_eq_iff {text : Text} :
    testBase text = withoutSuffix fileSuffix text ↔
      IsTestName (withoutSuffix fileSuffix text) := by
  constructor
  · intro h
    exact h ▸ isTestName_testBase text
  · intro h
    rw [testBase, testMark, h.safe.cleaned_eq, if_pos (List.isPrefixOf_iff_prefix.mpr h.begins),
      List.nil_append]

end Name

namespace Run

open Name

theorem exists_optionsFor_eq (options : Suite.Options) (index total : Nat) :
    ∃ fileName?, optionsFor options index total = { options with fileName? := fileName? } := by
  unfold optionsFor
  split
  · exact ⟨options.fileName?, rfl⟩
  · split
    · exact ⟨options.fileName?, rfl⟩
    · exact ⟨_, rfl⟩

theorem not_mem_of_cutAtLastStop?_eq_none {name : Text} (h : cutAtLastStop? name = none) :
    CodePoint.char '.' ∉ name := by
  intro hmem
  unfold cutAtLastStop? at h
  split at h
  · rename_i hnil
    have hall := List.dropWhile_eq_nil_iff.mp hnil _ (List.mem_reverse.mpr hmem)
    exact absurd hall (by decide)
  · exact absurd h nofun

theorem not_mem_extension {name stem extension : Text}
    (h : cutAtLastStop? name = some (stem, extension)) : CodePoint.char '.' ∉ extension := by
  intro hmem
  unfold cutAtLastStop? at h
  split at h
  · exact absurd h nofun
  · obtain ⟨-, rfl⟩ := Prod.mk.inj (Option.some.inj h)
    have hkept := List.mem_takeWhile_imp (List.mem_reverse.mp hmem)
    exact absurd hkept (by decide)

theorem number_ne_nil (n : Nat) : (toString n : Text) ≠ [] := by
  simp [Text.ofString]

theorem not_mem_number (n : Nat) : CodePoint.char '.' ∉ (toString n : Text) := by
  intro hmem
  exact absurd (isDigit_of_mem_number hmem) (by decide)

/-- A numbered file name without its suffix: the number stands at the end, or in front
of a full stop. -/
theorem exists_withoutSuffix_numberedName (name : Text) :
    ∃ stem back : Text, (back = [] ∨ ∃ rest, back = .char '.' :: rest) ∧ ∀ n,
      withoutSuffix fileSuffix (numberedName name n) = stem ++ "_" ++ toString n ++ back := by
  cases hcut : cutAtLastStop? name with
  | none =>
      refine ⟨name, [], .inl rfl, fun n => ?_⟩
      rw [numberedName, hcut, List.append_nil]
      refine withoutSuffix_of_not_suffix fun hsuffix => ?_
      have hmem : CodePoint.char '.' ∈ name ++ "_" ++ toString n := hsuffix.mem (by decide)
      rcases List.mem_append.mp hmem with hfront | hnumber
      · rcases List.mem_append.mp hfront with hname | hmark
        · exact not_mem_of_cutAtLastStop?_eq_none hcut hname
        · exact absurd hmark (by decide)
      · exact not_mem_number n hnumber
  | some found =>
      obtain ⟨stem, extension⟩ := found
      have hextension := not_mem_extension hcut
      by_cases hsuffix : extension = "py"
      · refine ⟨stem, [], .inl rfl, fun n => ?_⟩
        have hsplit : numberedName name n = stem ++ "_" ++ toString n ++ fileSuffix := by
          rw [numberedName, hcut, hsuffix]
          exact List.append_assoc _ _ _
        rw [hsplit, withoutSuffix_append, List.append_nil]
      · refine ⟨stem, "." ++ extension, .inr ⟨extension, rfl⟩, fun n => ?_⟩
        have hnumbered : numberedName name n =
            stem ++ "_" ++ toString n ++ "." ++ extension := by
          rw [numberedName, hcut]
        rw [← List.append_assoc, ← hnumbered]
        refine withoutSuffix_of_not_suffix ?_
        rintro ⟨front, hfront⟩
        have hstop : front ++ "." ++ "py" = stem ++ "_" ++ toString n ++ "." ++ extension := by
          rw [← hnumbered, ← hfront, List.append_assoc]
          rfl
        exact hsuffix (eq_of_append_stop (by decide) hextension hstop).symm

theorem numberedName_ne_empty (name : Text) (n : Nat) : numberedName name n ≠ "" := by
  intro hempty
  have hmem : CodePoint.char '_' ∈ numberedName name n := by
    unfold numberedName
    split <;> simp [Text.ofString]
  rw [hempty] at hmem
  exact absurd hmem (by decide)

/-- The file names that numbers give: they differ in the number, and in a digest behind
it that either all of them have or none. -/
theorem exists_fileName_numberedName (name : Text) :
    ∃ front : Text,
      (∀ n fallback, fileName (numberedName name n) fallback =
        front ++ toString n ++ fileSuffix) ∨
      ∃ back : Text, ∀ n fallback, fileName (numberedName name n) fallback =
        front ++ toString n ++ (back ++ digestSuffix (numberedName name n)) ++ fileSuffix := by
  obtain ⟨stem, back, hback, hstem⟩ := exists_withoutSuffix_numberedName name
  have hcleaned (n : Nat) : cleaned (stem ++ "_" ++ toString n ++ back) =
      cleaned stem ++ "_" ++ toString n ++ cleaned back := by
    rw [cleaned_append, cleaned_append, cleaned_append, (isSafeText_number n).cleaned_eq]
    rfl
  have hmark (n : Nat) : testMark (stem ++ "_" ++ toString n ++ back) = testMark (stem ++ "_") := by
    rw [testMark, hcleaned, List.append_assoc, isPrefixOf_numbered, testMark, cleaned_append]
    rfl
  let front := testMark (stem ++ "_") ++ (cleaned stem ++ "_")
  have hname (n : Nat) (fallback : Text) : fileName (numberedName name n) fallback =
      front ++ toString n ++ cleaned back ++
        (if front ++ toString n ++ cleaned back = stem ++ "_" ++ toString n ++ back then []
          else digestSuffix (numberedName name n)) ++ fileSuffix := by
    rw [fileName_eq_marked (numberedName_ne_empty name n), marked, testBase, hstem, hmark, hcleaned]
    simp only [front, List.append_assoc]
  have hsame (n : Nat) : front ++ toString n ++ cleaned back = stem ++ "_" ++ toString n ++ back ↔
      front = stem ++ "_" ∧ cleaned back = back := by
    constructor
    · intro h
      obtain ⟨hfront, hbacks⟩ := List.append_inj' h (List.length_map _)
      exact ⟨List.append_cancel_right hfront, hbacks⟩
    · rintro ⟨hfront, hbacks⟩
      rw [hfront, hbacks]
  refine ⟨front, ?_⟩
  by_cases hplain : front = stem ++ "_" ∧ cleaned back = back
  · left
    have hnone : back = [] := by
      rcases hback with rfl | ⟨rest, rfl⟩
      · rfl
      · exact absurd (List.cons.inj hplain.2).1 (by decide)
    intro n fallback
    rw [hname, if_pos ((hsame n).mpr hplain), hplain.2, hnone, List.append_nil, List.append_nil]
  · right
    refine ⟨cleaned back, fun n fallback => ?_⟩
    rw [hname, if_neg fun h => hplain ((hsame n).mp h), List.append_assoc (front ++ _)]

theorem eq_of_fileName_numberedName_eq {name : Text} {m n : Nat} {fallback other : Text}
    (h : fileName (numberedName name m) fallback = fileName (numberedName name n) other) :
    m = n := by
  have hnumbers (front : Text) (heq : front ++ toString m = front ++ toString n) : m = n :=
    Name.number_injective (List.append_cancel_left heq)
  obtain ⟨front, hplain | ⟨back, hmarked⟩⟩ := exists_fileName_numberedName name
  · rw [hplain, hplain] at h
    exact hnumbers front (List.append_cancel_right h)
  · rw [hmarked, hmarked] at h
    refine hnumbers front (List.append_inj' (List.append_cancel_right h) ?_).1
    rw [List.length_append, List.length_append, length_digestSuffix, length_digestSuffix]

/-- What a page object's file ends with, in front of the suffix, is not the end of a
number and not that of a digest. -/
theorem fileName_numberedName_ne_page (name : Text) (n : Nat) (fallback base : Text) :
    fileName (numberedName name n) fallback ≠ base ++ "_page" ++ fileSuffix := by
  intro h
  obtain ⟨front, hplain | ⟨back, hmarked⟩⟩ := exists_fileName_numberedName name
  · rw [hplain] at h
    have hlast := congrArg List.getLast? (List.append_cancel_right h)
    rw [List.getLast?_append_of_ne_nil _ (number_ne_nil n), List.getLast?_append] at hlast
    exact absurd (isDigit_of_mem_number (List.mem_of_getLast? hlast)) (by decide)
  · rw [hmarked] at h
    have hend := List.append_cancel_right h
    rw [← List.append_assoc] at hend
    exact append_digestSuffix_ne_page _ _ base hend

end Run

end PageScript
