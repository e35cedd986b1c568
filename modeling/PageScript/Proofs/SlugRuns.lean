import PageScript.Proofs.SafeNames
import PageScript.Proofs.SlugForm
/-!
Slugs taken apart.  A slug is one or more runs of small letters and digits with one underscore
between each two, and in no other way.  The base of the names of a suite has this form, so it is
kept when it is named again, and the name of its class is made of just its runs.
-/

namespace PageScript.Name

variable {s front text : Text} {c : CodePoint} {runs : List Text}

structure IsRun (run : Text) : Prop where
  nonempty : run ≠ []
  letters : ∀ c ∈ run, isSlugChar c = true

structure AreRuns (runs : List Text) : Prop where
  nonempty : runs ≠ []
  isRun : ∀ run ∈ runs, IsRun run

/-- The runs with one underscore between each two. -/
def joinRuns (runs : List Text) : Text := [CodePoint.char '_'].intercalate runs

theorem areRuns_singleton {run : Text} (hrun : IsRun run) : AreRuns [run] :=
  ⟨List.cons_ne_nil _ _, by simpa using hrun⟩

theorem AreRuns.cons {run : Text} (hrun : IsRun run) (hruns : AreRuns runs) :
    AreRuns (run :: runs) :=
  ⟨List.cons_ne_nil _ _, List.forall_mem_cons.mpr ⟨hrun, hruns.isRun⟩⟩

theorem joinRuns_cons {run : Text} (hruns : runs ≠ []) :
    joinRuns (run :: runs) = run ++ .char '_' :: joinRuns runs := by
  rw [joinRuns, List.intercalate_cons_of_ne_nil hruns, List.append_assoc]
  rfl

theorem AreRuns.isSlug (hruns : AreRuns runs) : IsSlug (joinRuns runs) := by
  obtain ⟨hne, hall⟩ := hruns
  induction runs with
  | nil => exact absurd rfl hne
  | cons run runs ih =>
      rw [List.forall_mem_cons] at hall
      have hrun : IsSlug run := isSlug_of_run hall.1.nonempty hall.1.letters
      by_cases hnil : runs = []
      · subst hnil
        simpa [joinRuns] using hrun
      · rw [joinRuns_cons hnil]
        exact hrun.join (ih hnil hall.2)

theorem IsSlug.of_append (hs : IsSlug (front ++ .char '_' :: s)) : IsSlug s := by
  have hne : s ≠ [] := by
    rintro rfl
    exact hs.last (by simp)
  have happart : (.char '_' :: s : Text).IsChain Apart := (List.isChain_append.mp hs.apart).2.1
  constructor
  · exact hne
  · intro c hc
    exact hs.letters c (by simp [hc])
  · exact happart.tail
  · intro hfirst
    exact (List.isChain_cons.mp happart).1 _ hfirst ⟨rfl, rfl⟩
  · have hlast := hs.last
    rwa [List.getLast?_append_of_ne_nil _ (List.cons_ne_nil _ _),
      List.getLast?_cons_of_ne_nil hne] at hlast

theorem IsSlug.isRun_takeWhile (hs : IsSlug s) : IsRun (s.takeWhile isSlugChar) := by
  constructor
  · intro hnil
    obtain ⟨c, rest, rfl⟩ := List.exists_cons_of_ne_nil hs.nonempty
    rcases hs.letters c List.mem_cons_self with hletter | rfl
    · simp [hletter] at hnil
    · exact hs.first rfl
  · exact fun c hc => List.mem_takeWhile_imp hc

theorem IsSlug.exists_runs (hs : IsSlug s) : ∃ runs, AreRuns runs ∧ s = joinRuns runs := by
  induction hlength : s.length using Nat.strong_induction_on generalizing s with
  | _ n ih =>
      have hrun := hs.isRun_takeWhile
      have hsplit := List.takeWhile_append_dropWhile (p := isSlugChar) (l := s)
      cases hrest : s.dropWhile isSlugChar with
      | nil =>
          rw [hrest, List.append_nil] at hsplit
          rw [hsplit] at hrun
          exact ⟨[s], areRuns_singleton hrun, by simp [joinRuns]⟩
      | cons c rest =>
          rw [hrest] at hsplit
          have hc : c = .char '_' := by
            have hnot := List.head?_dropWhile_not isSlugChar s
            rw [hrest] at hnot
            have hmem : c ∈ s := hsplit ▸ by simp
            simpa [show isSlugChar c = false by simpa using hnot] using hs.letters c hmem
          subst hc
          rw [← hsplit] at hs
          have hshorter : rest.length < n := by
            rw [← hlength, ← hsplit]
            simp
            omega
          obtain ⟨runs, hruns, rfl⟩ := ih _ hshorter hs.of_append rfl
          refine ⟨_, hruns.cons hrun, ?_⟩
          rw [joinRuns_cons hruns.nonempty, hsplit]

theorem slug_cases (text : Text) :
    slug text = [] ∨ ∃ runs, AreRuns runs ∧ slug text = joinRuns runs := by
  by_cases hslug : slug text = []
  · exact .inl hslug
  · exact .inr (isSlug_slug hslug).exists_runs

/-- The texts that are their own slugs have the form that all slugs have. -/
theorem slug_eq_self_iff :
    slug text = text ↔ text = [] ∨ ∃ runs, AreRuns runs ∧ text = joinRuns runs := by
  constructor
  · intro hslug
    rw [← hslug]
    exact slug_cases text
  · rintro (rfl | ⟨runs, hruns, rfl⟩)
    · rfl
    · exact hruns.isSlug.slug_eq

theorem AreRuns.splitAt_joinRuns (hruns : AreRuns runs) :
    Text.splitAt '_' (joinRuns runs) = runs := by
  have hnone : ∀ run ∈ runs, CodePoint.char '_' ∉ run := by
    intro run hrun hmem
    exact absurd ((hruns.isRun run hrun).letters _ hmem) (by decide)
  exact List.splitOn_intercalate _ hnone hruns.nonempty

theorem IsRun.capitalized_eq {run : Text} (hrun : IsRun run) :
    capitalized run = run.modifyHead CodePoint.toUpper := by
  obtain ⟨hne, hletters⟩ := hrun
  obtain ⟨c, rest, rfl⟩ := List.exists_cons_of_ne_nil hne
  have hrest : rest.map CodePoint.toLower = rest.map id := by
    apply List.map_congr_left
    intro d hd
    exact toLower_of_isSlugChar (hletters d (List.mem_cons_of_mem c hd))
  rw [capitalized, hrest, List.map_id, List.modifyHead_cons]

theorem isSlug_uniqueModuleName (text : Text) : IsSlug (uniqueModuleName text) := by
  rw [uniqueModuleName_eq_marked]
  by_cases hname : moduleName text = text
  · rw [marked_of_eq hname, id, ← hname]
    exact isSlug_moduleName text
  · rw [marked_of_ne hname]
    exact (isSlug_moduleName text).join (isSlug_short text)

theorem moduleName_uniqueModuleName (text : Text) :
    moduleName (uniqueModuleName text) = uniqueModuleName text := by
  rw [uniqueModuleName_eq_marked]
  by_cases hname : moduleName text = text
  · rw [marked_of_eq hname, id, hname]
  · rw [marked_of_ne hname]
    exact moduleName_append_digestSuffix text

theorem uniqueModuleName_of_moduleName_eq (hname : moduleName text = text) :
    uniqueModuleName text = text := by
  rw [uniqueModuleName_eq_marked, marked_of_eq hname, id]

/-- The name of the class of a base takes each of its runs with a capital. -/
theorem className_joinRuns (hruns : AreRuns runs) (hname : moduleName (joinRuns runs) = joinRuns runs) :
    className (joinRuns runs) = runs.flatMap fun run => run.modifyHead CodePoint.toUpper := by
  rw [className, hname, hruns.splitAt_joinRuns]
  exact List.flatMap_congr fun run hrun => (hruns.isRun run hrun).capitalized_eq

/-- The slug of a text is empty, or else runs of small letters and digits with one underscore
between each two, and it is these that are their own slugs.  The base made of any text is such runs
as well; it is the name of its own module, with a digest and without one, and its class is named by
its runs, each with a capital. -/
theorem slug_runs (text : Text) :
    (slug text = [] ∨ ∃ runs, AreRuns runs ∧ slug text = joinRuns runs) ∧
    (slug text = text ↔ text = [] ∨ ∃ runs, AreRuns runs ∧ text = joinRuns runs) ∧
    slug (slug text) = slug text ∧
    let base := uniqueModuleName text
    moduleName base = base ∧ uniqueModuleName base = base ∧
      withDigest uniqueModuleName base = .ok base ∧
      ∃ runs, AreRuns runs ∧ base = joinRuns runs ∧ Text.splitAt '_' base = runs ∧
        className base = runs.flatMap fun run => run.modifyHead CodePoint.toUpper := by
  have hkept := moduleName_uniqueModuleName text
  have hunique := uniqueModuleName_of_moduleName_eq hkept
  have hencodable := (isSlug_uniqueModuleName text).isSafeText.isEncodable
  refine ⟨slug_cases text, slug_eq_self_iff, slug_eq_self_iff.mpr (slug_cases text), hkept, hunique,
    ?_, ?_⟩
  · rw [withDigest_of_isEncodable hencodable, hunique]
  · obtain ⟨runs, hruns, hbase⟩ := (isSlug_uniqueModuleName text).exists_runs
    rw [hbase] at hkept ⊢
    exact ⟨runs, hruns, rfl, hruns.splitAt_joinRuns, className_joinRuns hruns hkept⟩

end PageScript.Name
