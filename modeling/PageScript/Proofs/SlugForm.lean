import Mathlib.Data.List.Chain
import Mathlib.Data.List.DropRight
import PageScript.Proofs.MarkedNames
import PageScript.Proofs.NameCharacters

namespace PageScript.Name

variable {s t text : Text} {c : CodePoint}

/-- The characters of a slug apart from the underscore. -/
def isSlugChar (c : CodePoint) : Bool :=
  (0x30 ≤ c.toNat && c.toNat ≤ 0x39) || (0x61 ≤ c.toNat && c.toNat ≤ 0x7A)

def Apart (a b : CodePoint) : Prop := ¬ (a = .char '_' ∧ b = .char '_')

/-- Small letters and digits, with single underscores that are neither first nor last. -/
structure IsSlug (s : Text) : Prop where
  nonempty : s ≠ []
  letters : ∀ c ∈ s, isSlugChar c = true ∨ c = .char '_'
  apart : s.IsChain Apart
  first : CodePoint.char '_' ∉ s.head?
  last : CodePoint.char '_' ∉ s.getLast?

theorem isSafe_of_isSlugChar (hc : isSlugChar c = true) : isSafe c = true := by
  unfold isSlugChar at hc
  simp only [Bool.or_eq_true, Bool.and_eq_true, decide_eq_true_eq] at hc
  simp only [isSafe, Text.isAsciiAlnum, Bool.or_eq_true, Bool.and_eq_true, decide_eq_true_eq]
  omega

theorem isSlugChar_toLower (hc : isSafe c = true) :
    isSlugChar c.toLower = true ∨ c.toLower = .char '_' := by
  have all : ∀ n : Fin 0x80, isSafe (.char (Char.ofNat n)) = true →
      isSlugChar (CodePoint.char (Char.ofNat n)).toLower = true ∨
        (CodePoint.char (Char.ofNat n)).toLower = .char '_' := by
    decide
  obtain ⟨n, rfl⟩ := exists_char_of_isSafe hc
  exact all n hc

theorem eq_underscore_of_toLower (hc : isSafe c = true) (hlower : c.toLower = .char '_') :
    c = .char '_' := by
  have all : ∀ n : Fin 0x80, (CodePoint.char (Char.ofNat n)).toLower = .char '_' →
      CodePoint.char (Char.ofNat n) = .char '_' := by
    decide
  obtain ⟨n, rfl⟩ := exists_char_of_isSafe hc
  exact all n hlower

theorem toLower_of_isSlugChar (hc : isSlugChar c = true) : c.toLower = c := by
  have all : ∀ n : Fin 0x80, isSlugChar (.char (Char.ofNat n)) = true →
      (CodePoint.char (Char.ofNat n)).toLower = .char (Char.ofNat n) := by
    decide
  obtain ⟨n, rfl⟩ := exists_char_of_isSafe (isSafe_of_isSlugChar hc)
  exact all n hc

theorem head?_squeeze (s : Text) : (squeeze s).head? = s.head? := by
  fun_induction squeeze s with
  | case1 s ih => simpa using ih
  | case2 c s _ ih => rfl
  | case3 => rfl

theorem apart_squeeze (s : Text) : (squeeze s).IsChain Apart := by
  fun_induction squeeze s with
  | case1 s ih => exact ih
  | case2 c s hpair ih =>
      rw [List.isChain_cons]
      refine ⟨fun d hd => ?_, ih⟩
      rintro ⟨rfl, rfl⟩
      -- Squeezing keeps what is first, so the text itself begins with two underscores.
      rw [head?_squeeze] at hd
      obtain ⟨rest, rfl⟩ := List.head?_eq_some_iff.mp hd
      exact hpair rest rfl rfl
  | case3 => exact List.isChain_nil

theorem squeeze_eq_self (hs : s.IsChain Apart) : squeeze s = s := by
  fun_induction squeeze s with
  | case1 s ih =>
      rw [List.isChain_cons_cons] at hs
      exact absurd ⟨rfl, rfl⟩ hs.1
  | case2 c s _ ih => rw [ih hs.tail]
  | case3 => rfl

theorem stripUnderscores_isInfix (s : Text) : stripUnderscores s <:+: s :=
  (List.rdropWhile_prefix _ _).isInfix.trans (List.dropWhile_suffix _).isInfix

theorem first_stripUnderscores (s : Text) : CodePoint.char '_' ∉ (stripUnderscores s).head? := by
  intro hfirst
  obtain ⟨rest, hrest⟩ : stripUnderscores s <+: s.dropWhile (· == CodePoint.char '_') :=
    List.rdropWhile_prefix _ _
  have hnot := List.head?_dropWhile_not (· == CodePoint.char '_') s
  rw [← hrest, List.head?_append, Option.mem_def.mp hfirst] at hnot
  simp at hnot

theorem last_stripUnderscores (s : Text) : CodePoint.char '_' ∉ (stripUnderscores s).getLast? := by
  intro hlast
  have hne : stripUnderscores s ≠ [] := by
    intro hnil
    simp [hnil] at hlast
  have hnot := List.rdropWhile_last_not (· == CodePoint.char '_') _ hne
  rw [Option.mem_def, List.getLast?_eq_some_getLast hne] at hlast
  exact hnot (beq_iff_eq.mpr (Option.some.inj hlast))

theorem stripUnderscores_eq_self (hfirst : CodePoint.char '_' ∉ s.head?)
    (hlast : CodePoint.char '_' ∉ s.getLast?) : stripUnderscores s = s := by
  have hstart : s.dropWhile (· == CodePoint.char '_') = s := by
    cases s with
    | nil => rfl
    | cons c s => exact List.dropWhile_cons_of_neg (by simpa using hfirst)
  change (s.dropWhile (· == CodePoint.char '_')).rdropWhile (· == CodePoint.char '_') = s
  rw [hstart, List.rdropWhile_eq_self_iff]
  intro hne hunderscore
  rw [List.getLast?_eq_some_getLast hne] at hlast
  exact hlast (congrArg some (beq_iff_eq.mp hunderscore))

theorem IsSlug.isSafeText (hs : IsSlug s) : IsSafeText s := by
  intro c hc
  rcases hs.letters c hc with hletter | rfl
  · exact isSafe_of_isSlugChar hletter
  · decide

theorem IsSlug.slug_eq (hs : IsSlug s) : slug s = s := by
  rw [slug, hs.isSafeText.cleaned_eq, squeeze_eq_self hs.apart,
    stripUnderscores_eq_self hs.first hs.last]
  calc
    s.map CodePoint.toLower = s.map id := by
      apply List.map_congr_left
      intro c hc
      rcases hs.letters c hc with hletter | rfl
      · exact toLower_of_isSlugChar hletter
      · rfl
    _ = s := List.map_id s

theorem isSlug_slug (htext : slug text ≠ []) : IsSlug (slug text) := by
  have hsafe : IsSafeText (stripUnderscores (squeeze (cleaned text))) :=
    (isSafeText_cleaned text).of_subset fun c hc =>
      mem_of_mem_squeeze (mem_of_mem_stripUnderscores hc)
  -- No other safe character becomes an underscore in lower case, so neighbours and ends are
  -- those of the text before it.
  constructor
  · exact htext
  · intro c hc
    obtain ⟨original, horiginal, rfl⟩ := List.mem_map.mp hc
    exact isSlugChar_toLower (hsafe original horiginal)
  · have happart := List.IsChain.infix (apart_squeeze (cleaned text)) (stripUnderscores_isInfix _)
    rw [slug, List.isChain_map]
    refine happart.imp_of_mem_imp fun a b ha hb hab => ?_
    rintro ⟨hfirst, hsecond⟩
    exact hab ⟨eq_underscore_of_toLower (hsafe a ha) hfirst,
      eq_underscore_of_toLower (hsafe b hb) hsecond⟩
  · rw [slug, List.head?_map]
    intro hfirst
    obtain ⟨original, horiginal, hlower⟩ := Option.map_eq_some_iff.mp hfirst
    obtain rfl :=
      eq_underscore_of_toLower (hsafe original (List.mem_of_mem_head? horiginal)) hlower
    exact first_stripUnderscores _ horiginal
  · rw [slug, List.getLast?_map]
    intro hlast
    obtain ⟨original, horiginal, hlower⟩ := Option.map_eq_some_iff.mp hlast
    obtain rfl :=
      eq_underscore_of_toLower (hsafe original (List.mem_of_getLast? horiginal)) hlower
    exact last_stripUnderscores _ horiginal

theorem isSlug_of_run (hs : s ≠ []) (hrun : ∀ c ∈ s, isSlugChar c = true) : IsSlug s := by
  have hnone : CodePoint.char '_' ∉ s := fun hmem => absurd (hrun _ hmem) (by decide)
  constructor
  · exact hs
  · exact fun c hc => .inl (hrun c hc)
  · apply List.Pairwise.isChain
    apply List.pairwise_of_forall_mem_list
    intro a ha b hb
    rintro ⟨rfl, -⟩
    exact hnone ha
  · exact fun hfirst => hnone (List.mem_of_mem_head? hfirst)
  · exact fun hlast => hnone (List.mem_of_getLast? hlast)

theorem IsSlug.join (hs : IsSlug s) (ht : IsSlug t) : IsSlug (s ++ .char '_' :: t) := by
  constructor
  · simp
  · intro c hc
    rcases List.mem_append.mp hc with hfront | hback
    · exact hs.letters c hfront
    · rcases List.mem_cons.mp hback with rfl | hback
      · exact .inr rfl
      · exact ht.letters c hback
  · apply hs.apart.append
    · rw [List.isChain_cons]
      refine ⟨fun c hc => ?_, ht.apart⟩
      rintro ⟨-, rfl⟩
      exact ht.first hc
    · intro c hc d hd
      rintro ⟨rfl, -⟩
      exact hs.last hc
  · rw [List.head?_append_of_ne_nil _ hs.nonempty]
    exact hs.first
  · rw [List.getLast?_append_of_ne_nil _ (List.cons_ne_nil _ _),
      List.getLast?_cons_of_ne_nil ht.nonempty]
    exact ht.last

theorem isSlugChar_of_mem_hex {width n : Nat} (hc : c ∈ Text.hex width n) :
    isSlugChar c = true := by
  have hall : ∀ digit : Fin 16, isSlugChar (Text.hexDigit digit) = true := by decide
  obtain ⟨digit, hdigit, rfl⟩ := Text.exists_hexDigit_of_mem_hex hc
  exact hall ⟨digit, hdigit⟩

theorem isSlug_short (text : Text) : IsSlug (Digest.short text) := by
  apply isSlug_of_run
  · exact List.ne_nil_of_length_eq_add_one (Digest.length_short text)
  · exact fun c hc => isSlugChar_of_mem_hex hc

theorem moduleName_cases (text : Text) :
    (slug text = [] ∧ moduleName text = "scenario") ∨
      ∃ c s, slug text = c :: s ∧
        ((c.isDigit = true ∧ moduleName text = ("scenario" : Text) ++ .char '_' :: slug text) ∨
          (c.isDigit = false ∧ moduleName text = slug text)) := by
  unfold moduleName
  split
  · exact .inl ⟨by assumption, rfl⟩
  · rename_i c s hslug
    refine .inr ⟨c, s, hslug, ?_⟩
    rw [hslug]
    split
    · rename_i hdigit
      exact .inl ⟨hdigit, rfl⟩
    · rename_i hdigit
      exact .inr ⟨by simpa using hdigit, rfl⟩

theorem isSlug_moduleName (text : Text) : IsSlug (moduleName text) := by
  have hword : IsSlug ("scenario" : Text) := isSlug_of_run (by decide) (by decide)
  rcases moduleName_cases text with ⟨-, hname⟩ | ⟨c, s, hslug, hcase⟩
  · rw [hname]
    exact hword
  · have hform : IsSlug (slug text) := isSlug_slug (by simp [hslug])
    rcases hcase with ⟨-, hname⟩ | ⟨-, hname⟩
    · rw [hname]
      exact hword.join hform
    · rw [hname]
      exact hform

theorem isDigit_head?_moduleName (text : Text) :
    ∀ c ∈ (moduleName text).head?, c.isDigit = false := by
  intro c hc
  rcases moduleName_cases text with ⟨-, hname⟩ | ⟨first, s, hslug, ⟨-, hname⟩ | ⟨hdigit, hname⟩⟩
  · rw [hname] at hc
    obtain rfl := Option.some.inj hc
    decide
  · rw [hname] at hc
    obtain rfl := Option.some.inj hc
    decide
  · rw [hname, hslug] at hc
    obtain rfl := Option.some.inj hc
    exact hdigit

theorem IsSlug.moduleName_eq (hs : IsSlug s) (hdigit : ∀ c ∈ s.head?, c.isDigit = false) :
    moduleName s = s := by
  rcases moduleName_cases s with ⟨hnil, -⟩ | ⟨c, rest, hslug, ⟨hfirst, -⟩ | ⟨-, hname⟩⟩
  · rw [hs.slug_eq] at hnil
    exact absurd hnil hs.nonempty
  · rw [hs.slug_eq] at hslug
    have hother := hdigit c (by simp [hslug])
    rw [hfirst] at hother
    exact absurd hother (by decide)
  · rw [hname, hs.slug_eq]

/-- The name of a module with the digest of its text is a name as it stands. -/
theorem moduleName_append_digestSuffix (text : Text) :
    moduleName (moduleName text ++ digestSuffix text) = moduleName text ++ digestSuffix text := by
  have hform : IsSlug (moduleName text ++ digestSuffix text) :=
    (isSlug_moduleName text).join (isSlug_short text)
  apply hform.moduleName_eq
  rw [List.head?_append_of_ne_nil _ (isSlug_moduleName text).nonempty]
  exact isDigit_head?_moduleName text

end PageScript.Name
