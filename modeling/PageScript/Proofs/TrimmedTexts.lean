import Mathlib.Data.List.Basic
import Mathlib.Data.List.TakeWhile
import PageScript.Text.Blank

namespace PageScript

theorem mem_head?_append {α : Type} {c : α} {s t : List α} (h : c ∈ (s ++ t).head?) :
    c ∈ s.head? ∨ c ∈ t.head? := by
  rw [List.head?_append, Option.mem_def, Option.or_eq_some_iff] at h
  exact h.imp_right And.right

theorem takeWhile_append_of_head {α : Type} {p : α → Bool} {s rest : List α}
    (hs : ∀ c ∈ s, p c = true) (hrest : ∀ c ∈ rest.head?, p c = false) :
    (s ++ rest).takeWhile p = s ∧ (s ++ rest).dropWhile p = rest := by
  rw [List.takeWhile_append_of_pos hs, List.dropWhile_append_of_pos hs]
  cases rest with
  | nil => exact ⟨List.append_nil s, rfl⟩
  | cons c rest =>
      have hc : ¬ p c = true := by simp [hrest c rfl]
      rw [List.takeWhile_cons_of_neg hc, List.dropWhile_cons_of_neg hc, List.append_nil]
      exact ⟨rfl, rfl⟩

namespace Text

/-- No blank stands at either end of the text. -/
structure IsTrimmed (s : Text) : Prop where
  first : ∀ c ∈ s.head?, isBlank c = false
  last : ∀ c ∈ s.getLast?, isBlank c = false

theorem isTrimmed_of_solid {s : Text} (hs : ∀ c ∈ s, isBlank c = false) : IsTrimmed s where
  first c hc := hs c (List.mem_of_mem_head? hc)
  last c hc := hs c (List.mem_of_getLast? hc)

theorem IsTrimmed.append {s t : Text} (hs : IsTrimmed s) (ht : IsTrimmed t) :
    IsTrimmed (s ++ t) where
  first c hc := by
    rcases mem_head?_append hc with hc | hc
    · exact hs.first c hc
    · exact ht.first c hc
  last c hc := by
    rw [List.getLast?_append, Option.mem_def, Option.or_eq_some_iff] at hc
    rcases hc with hc | ⟨-, hc⟩
    · exact ht.last c hc
    · exact hs.last c hc

/-- Whatever stands between two texts, blanks included, it is not at an end. -/
theorem IsTrimmed.around {s t : Text} (hs : IsTrimmed s) (hsne : s ≠ []) (ht : IsTrimmed t)
    (htne : t ≠ []) (between : Text) : IsTrimmed (s ++ between ++ t) where
  first c hc := by
    rw [List.append_assoc, List.head?_append_of_ne_nil _ hsne] at hc
    exact hs.first c hc
  last c hc := by
    rw [List.getLast?_append_of_ne_nil _ htne] at hc
    exact ht.last c hc

theorem trimStart_of_first {s : Text} (h : ∀ c ∈ s.head?, isBlank c = false) : trimStart s = s := by
  cases s with
  | nil => rfl
  | cons c rest => exact List.dropWhile_cons_of_neg (by simp [h c rfl])

theorem trimStart_append {before : Text} (hbefore : isBlankText before = true) (s : Text) :
    trimStart (before ++ s) = trimStart s :=
  List.dropWhile_append_of_pos (List.all_eq_true.mp hbefore)

theorem trimStart_first (s : Text) : ∀ c ∈ (trimStart s).head?, isBlank c = false := by
  intro c hc
  have hhead := List.head?_dropWhile_not isBlank s
  rw [trimStart, Option.mem_def] at hc
  simpa [hc] using hhead

theorem exists_eq_append_trimStart (s : Text) :
    ∃ before, isBlankText before = true ∧ s = before ++ trimStart s :=
  ⟨s.takeWhile isBlank, List.all_takeWhile, List.takeWhile_append_dropWhile.symm⟩

theorem trimEnd_eq (s : Text) : trimEnd s = (trimStart s.reverse).reverse := rfl

theorem isBlankText_reverse (s : Text) : isBlankText s.reverse = isBlankText s := List.all_reverse

theorem exists_eq_trimEnd_append (s : Text) :
    ∃ after, isBlankText after = true ∧ s = trimEnd s ++ after := by
  obtain ⟨after, hafter, hs⟩ := exists_eq_append_trimStart s.reverse
  refine ⟨after.reverse, by rwa [isBlankText_reverse], ?_⟩
  rw [trimEnd_eq, ← List.reverse_append, ← hs, List.reverse_reverse]

theorem isTrimmed_trim (s : Text) : IsTrimmed (trim s) where
  first c hc := by
    obtain ⟨after, -, hafter⟩ := exists_eq_trimEnd_append (trimStart s)
    have hc : (trimEnd (trimStart s)).head? = some c := hc
    apply trimStart_first s
    rw [hafter, List.head?_append, hc]
    rfl
  last c hc := by
    rw [trim, trimEnd_eq, List.getLast?_reverse] at hc
    exact trimStart_first _ c hc

theorem exists_eq_trim (s : Text) : ∃ before after, isBlankText before = true ∧
    isBlankText after = true ∧ s = before ++ trim s ++ after := by
  obtain ⟨before, hbefore, hs⟩ := exists_eq_append_trimStart s
  obtain ⟨after, hafter, hend⟩ := exists_eq_trimEnd_append (trimStart s)
  refine ⟨before, after, hbefore, hafter, ?_⟩
  rw [List.append_assoc]
  exact hs.trans (congrArg (before ++ ·) hend)

theorem trimStart_append_of_first {s : Text} (h : ∀ c ∈ s.head?, isBlank c = false)
    (before : Text) : trimStart (before ++ s) = trimStart before ++ s := by
  obtain ⟨blank, hblank, hbefore⟩ := exists_eq_append_trimStart before
  have hfirst : ∀ c ∈ (trimStart before ++ s).head?, isBlank c = false := by
    intro c hc
    rcases mem_head?_append hc with hc | hc
    · exact trimStart_first before c hc
    · exact h c hc
  have htext : before ++ s = blank ++ (trimStart before ++ s) := by
    rw [← List.append_assoc, ← hbefore]
  rw [htext, trimStart_append hblank, trimStart_of_first hfirst]

theorem trimEnd_append_of_last {s : Text} (h : ∀ c ∈ s.getLast?, isBlank c = false)
    (after : Text) : trimEnd (s ++ after) = s ++ trimEnd after := by
  have hfirst : ∀ c ∈ s.reverse.head?, isBlank c = false := by
    rwa [List.head?_reverse]
  rw [trimEnd_eq, List.reverse_append, trimStart_append_of_first hfirst, List.reverse_append,
    List.reverse_reverse, trimEnd_eq]

theorem trimEnd_of_blank {s : Text} (hs : ∀ c ∈ s, isBlank c = true) : trimEnd s = [] := by
  have hnone : trimStart s.reverse = [] :=
    List.dropWhile_eq_nil_iff.mpr fun c hc => hs c (List.mem_reverse.mp hc)
  rw [trimEnd_eq, hnone]
  rfl

theorem trim_of_blank {s : Text} (hs : ∀ c ∈ s, isBlank c = true) : trim s = [] := by
  have hnone : trimStart s = [] := List.dropWhile_eq_nil_iff.mpr hs
  rw [trim, hnone]
  rfl

theorem trimEnd_isPrefix (s : Text) : trimEnd s <+: s := by
  obtain ⟨after, -, hs⟩ := exists_eq_trimEnd_append s
  exact ⟨after, hs.symm⟩

theorem trim_around {before s after : Text} (hs : IsTrimmed s) (hne : s ≠ []) :
    trim (before ++ (s ++ after)) = trimStart before ++ (s ++ trimEnd after) := by
  have hfirst : ∀ c ∈ (s ++ after).head?, isBlank c = false := by
    rw [List.head?_append_of_ne_nil _ hne]
    exact hs.first
  have hlast : ∀ c ∈ (trimStart before ++ s).getLast?, isBlank c = false := by
    rw [List.getLast?_append_of_ne_nil _ hne]
    exact hs.last
  rw [trim, trimStart_append_of_first hfirst, ← List.append_assoc, trimEnd_append_of_last hlast,
    List.append_assoc]

theorem trim_surrounded {before s after : Text} (hbefore : isBlankText before = true)
    (hs : IsTrimmed s) (hafter : isBlankText after = true) : trim (before ++ s ++ after) = s := by
  rw [List.append_assoc, trim, trimStart_append hbefore]
  cases s with
  | nil =>
      have hnone : trimStart after = [] := List.dropWhile_eq_nil_iff.mpr (List.all_eq_true.mp hafter)
      rw [List.nil_append, hnone]
      rfl
  | cons c rest =>
      have hlast : ∀ d ∈ (c :: rest).reverse.head?, isBlank d = false := by
        rw [List.head?_reverse]
        exact hs.last
      have hstart : trimStart (c :: rest ++ after) = c :: rest ++ after := trimStart_of_first hs.first
      rw [hstart, trimEnd_eq, List.reverse_append,
        trimStart_append (by rwa [isBlankText_reverse]), trimStart_of_first hlast,
        List.reverse_reverse]

theorem IsTrimmed.trim_eq {s : Text} (h : IsTrimmed s) : trim s = s := by
  have hblank : isBlankText [] = true := rfl
  simpa using trim_surrounded hblank h hblank

end Text

end PageScript
