import PageScript.Name
import PageScript.Suite.PageObject

namespace PageScript.Name

/-- A text that can stand inside a name. -/
def IsSafeText (s : Text) : Prop := ∀ c ∈ s, isSafe c = true

instance (s : Text) : Decidable (IsSafeText s) :=
  inferInstanceAs (Decidable (∀ c ∈ s, isSafe c = true))

theorem isSafeText_nil : IsSafeText [] := fun _ hc => absurd hc List.not_mem_nil

theorem IsSafeText.append {s t : Text} (hs : IsSafeText s) (ht : IsSafeText t) :
    IsSafeText (s ++ t) := fun c hc => (List.mem_append.mp hc).elim (hs c) (ht c)

theorem IsSafeText.of_subset {s t : Text} (hs : IsSafeText s) (hst : ∀ c ∈ t, c ∈ s) :
    IsSafeText t := fun c hc => hs c (hst c hc)

theorem toNat_lt_of_isSafe {c : CodePoint} (hc : isSafe c = true) : c.toNat < 0x80 := by
  unfold isSafe Text.isAsciiAlnum at hc
  simp only [Bool.or_eq_true, Bool.and_eq_true, decide_eq_true_eq, beq_iff_eq] at hc
  rcases hc with hc | rfl
  · omega
  · decide

theorem exists_char_of_toNat_lt {c : CodePoint} (hc : c.toNat < 0x80) :
    ∃ n : Fin 0x80, c = .char (Char.ofNat n) := by
  cases c with
  | char c => exact ⟨⟨c.toNat, hc⟩, by simp⟩
  | surrogate index =>
      simp only [CodePoint.toNat] at hc
      omega

theorem exists_char_of_isSafe {c : CodePoint} (hc : isSafe c = true) :
    ∃ n : Fin 0x80, c = .char (Char.ofNat n) :=
  exists_char_of_toNat_lt (toNat_lt_of_isSafe hc)

theorem isSafe_toLower {c : CodePoint} (hc : isSafe c = true) : isSafe c.toLower = true := by
  have all : ∀ n : Fin 0x80, isSafe (.char (Char.ofNat n)) = true →
      isSafe (CodePoint.char (Char.ofNat n)).toLower = true := by decide
  obtain ⟨n, rfl⟩ := exists_char_of_isSafe hc
  exact all n hc

theorem isSafe_toUpper {c : CodePoint} (hc : isSafe c = true) : isSafe c.toUpper = true := by
  have all : ∀ n : Fin 0x80, isSafe (.char (Char.ofNat n)) = true →
      isSafe (CodePoint.char (Char.ofNat n)).toUpper = true := by decide
  obtain ⟨n, rfl⟩ := exists_char_of_isSafe hc
  exact all n hc

theorem isSafeText_cleaned (s : Text) : IsSafeText (cleaned s) := by
  intro c hc
  obtain ⟨original, -, rfl⟩ := List.mem_map.mp hc
  split
  · assumption
  · decide

theorem cleaned_append (s t : Text) : cleaned (s ++ t) = cleaned s ++ cleaned t :=
  List.map_append

theorem IsSafeText.cleaned_eq {s : Text} (hs : IsSafeText s) : cleaned s = s :=
  calc
    cleaned s = s.map id := List.map_congr_left fun c hc => if_pos (hs c hc)
    _ = s := List.map_id s

theorem mem_of_mem_squeeze {s : Text} {c : CodePoint} (hc : c ∈ squeeze s) : c ∈ s := by
  fun_induction squeeze s with
  | case1 s ih => exact List.mem_cons_of_mem _ (ih hc)
  | case2 first s _ ih =>
      rcases List.mem_cons.mp hc with rfl | hc
      · exact List.mem_cons_self
      · exact List.mem_cons_of_mem _ (ih hc)
  | case3 => exact hc

theorem mem_of_mem_stripUnderscores {s : Text} {c : CodePoint} (hc : c ∈ stripUnderscores s) :
    c ∈ s := by
  have hinner := List.dropWhile_sublist (fun c : CodePoint => c == '_') |>.subset
    (List.mem_reverse.mp hc)
  exact (List.dropWhile_sublist _).subset (List.mem_reverse.mp hinner)

theorem isSafeText_slug (s : Text) : IsSafeText (slug s) := by
  intro c hc
  obtain ⟨original, horiginal, rfl⟩ := List.mem_map.mp hc
  apply isSafe_toLower
  exact isSafeText_cleaned s original
    (mem_of_mem_squeeze (mem_of_mem_stripUnderscores horiginal))

theorem isSafeText_moduleName (s : Text) : IsSafeText (moduleName s) := by
  have hslug := isSafeText_slug s
  unfold moduleName
  split
  · decide
  · rename_i c rest heq
    rw [heq] at hslug
    split
    · exact IsSafeText.append (by decide) hslug
    · exact hslug

theorem isSafe_hexDigit {n : Nat} (hn : n < 16) : isSafe (Text.hexDigit n) = true := by
  have all : ∀ m : Fin 16, isSafe (Text.hexDigit m) = true := by decide
  exact all ⟨n, hn⟩

theorem isSafeText_hex (width n : Nat) : IsSafeText (Text.hex width n) := by
  induction width generalizing n with
  | zero => exact isSafeText_nil
  | succ width ih =>
      refine (ih (n / 16)).append fun c hc => ?_
      obtain rfl := List.mem_singleton.mp hc
      exact isSafe_hexDigit (Nat.mod_lt n (by decide))

theorem isSafeText_digestSuffix (s : Text) : IsSafeText (digestSuffix s) :=
  IsSafeText.append (by decide) (isSafeText_hex 8 _)

theorem isSafeText_uniqueModuleName (s : Text) : IsSafeText (uniqueModuleName s) := by
  unfold uniqueModuleName
  simp only
  split
  · exact isSafeText_moduleName s
  · exact (isSafeText_moduleName s).append (isSafeText_digestSuffix s)

theorem isSafeText_identifier {text fallback : Text} (hfallback : IsSafeText fallback) :
    IsSafeText (identifier text fallback) := by
  unfold identifier
  simp only
  split
  · exact hfallback
  · split
    · exact isSafeText_cleaned text
    · exact (isSafeText_cleaned text).append (isSafeText_digestSuffix text)

theorem isSafeText_capitalized {s : Text} (hs : IsSafeText s) : IsSafeText (capitalized s) := by
  cases s with
  | nil => exact isSafeText_nil
  | cons c s =>
      intro upper hupper
      rcases List.mem_cons.mp hupper with rfl | hlater
      · exact isSafe_toUpper (hs c List.mem_cons_self)
      · obtain ⟨original, horiginal, rfl⟩ := List.mem_map.mp hlater
        exact isSafe_toLower (hs original (List.mem_cons_of_mem _ horiginal))

theorem mem_of_mem_splitOnP {p : CodePoint → Bool} {s part : Text} {c : CodePoint}
    (hpart : part ∈ s.splitOnP p) (hc : c ∈ part) : c ∈ s := by
  induction s generalizing part with
  | nil =>
      obtain rfl := List.mem_singleton.mp hpart
      exact hc
  | cons first s ih =>
      rw [List.splitOnP_cons_eq_if_modifyHead] at hpart
      split at hpart
      · rcases List.mem_cons.mp hpart with rfl | hpart
        · exact absurd hc List.not_mem_nil
        · exact List.mem_cons_of_mem _ (ih hpart hc)
      · cases hparts : s.splitOnP p with
        | nil => exact absurd hparts (List.splitOnP_ne_nil p s)
        | cons head tail =>
            rw [hparts] at hpart ih
            rcases List.mem_cons.mp hpart with rfl | hpart
            · rcases List.mem_cons.mp hc with rfl | hc
              · exact List.mem_cons_self
              · exact List.mem_cons_of_mem _ (ih List.mem_cons_self hc)
            · exact List.mem_cons_of_mem _ (ih (List.mem_cons_of_mem _ hpart) hc)

theorem isSafeText_className (s : Text) : IsSafeText (className s) := by
  intro c hc
  obtain ⟨part, hpart, hc⟩ := List.mem_flatMap.mp hc
  have hsafe : IsSafeText part :=
    (isSafeText_moduleName s).of_subset fun c hc => mem_of_mem_splitOnP hpart hc
  exact isSafeText_capitalized hsafe c hc

theorem isDigit_of_mem_number {n : Nat} {c : CodePoint} (hc : c ∈ (toString n : Text)) :
    c.isDigit = true := by
  obtain ⟨digit, hdigit, rfl⟩ := List.mem_map.mp hc
  have hdigits : digit ∈ Nat.toDigits 10 n := by simpa using hdigit
  exact Nat.isDigit_of_mem_toDigits (by decide) (by decide) hdigits

theorem number_injective {m n : Nat} (h : (toString m : Text) = toString n) : m = n := by
  have hdigits : Nat.toDigits 10 m = Nat.toDigits 10 n := by
    have hchars := (List.map_inj_right fun _ _ h => CodePoint.char.inj h).mp h
    simpa using hchars
  have hvalue := congrArg (fun digits => Nat.ofDigitChars 10 digits 0) hdigits
  simpa only [Nat.ofDigitChars_ten_toDigits] using hvalue

theorem isSafeText_number (n : Nat) : IsSafeText (toString n) := by
  intro c hc
  have hrange := isDigit_of_mem_number hc
  cases c with
  | surrogate index => exact absurd hrange nofun
  | char digit =>
      have hbounds : 0x30 ≤ digit.toNat ∧ digit.toNat ≤ 0x39 := by
        simpa [CodePoint.isDigit, Char.isDigit, UInt32.le_iff_toNat_le] using hrange
      simp [isSafe, Text.isAsciiAlnum, CodePoint.toNat, hbounds]

end PageScript.Name
