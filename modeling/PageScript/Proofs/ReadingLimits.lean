import Mathlib.Data.List.TakeWhile
import PageScript.Proofs.RoutineSteps
import PageScript.Reply
/-!
The limits of reading.  The reader of JSON takes its text from the front, so that
all it comes upon stands in the text.  What it refuses is therefore malformed, or
passes a limit that can be seen in the text: a run of too many digits, or more opening
brackets than may stand in each other.
-/

namespace PageScript.Datum.Json

open Reply (isOpening)

/-- A limit that a text passes where `depth` more lists and maps may stand in each other. -/
inductive PassesLimit (depth : Nat) (s : Text) : ReadError → Prop where
  | digits {run : Text} (hrun : run <:+: s) (hdigits : ∀ c ∈ run, c.isDigit = true)
      (hlong : Text.maxDigits < run.length) : PassesLimit depth s (.tooManyDigits run.length)
  | openings (hdeep : depth < s.countP isOpening) : PassesLimit depth s .tooDeep

variable {α β : Type} {depth : Nat} {s t : Text} {error : ReadError}

theorem PassesLimit.of_isInfix (h : PassesLimit depth s error) (hst : s <:+: t) :
    PassesLimit depth t error := by
  cases h with
  | digits hrun hdigits hlong => exact .digits (hrun.trans hst) hdigits hlong
  | openings hdeep => exact .openings (Nat.lt_of_lt_of_le hdeep hst.sublist.countP_le)

theorem PassesLimit.of_opening {c : CodePoint} (hc : isOpening c = true)
    (h : PassesLimit depth s error) : PassesLimit (depth + 1) (c :: s) error := by
  cases h with
  | digits hrun hdigits hlong =>
      exact .digits (hrun.trans (List.suffix_cons c s).isInfix) hdigits hlong
  | openings hdeep =>
      apply PassesLimit.openings
      rw [List.countP_cons_of_pos hc]
      omega

/-- A reader that leaves the end of its text, and refuses only what is malformed or
passes a limit. -/
structure Consumes (depth : Nat) (s : Text) (ended : Except ReadError (α × Text)) : Prop where
  rest : ∀ found rest, ended = .ok (found, rest) → rest <:+ s
  error : ∀ error, ended = .error error → error = .malformed ∨ PassesLimit depth s error

namespace Consumes

theorem malformed : Consumes depth s (.error .malformed : Except ReadError (α × Text)) where
  rest := nofun
  error _ h := Or.inl (Except.error.inj h).symm

theorem tooDeep {c : CodePoint} {rest : Text} (hc : isOpening c = true) :
    Consumes 0 (c :: rest) (.error .tooDeep : Except ReadError (α × Text)) where
  rest := nofun
  error error hended := by
    obtain rfl := Except.error.inj hended
    refine Or.inr (.openings ?_)
    rw [List.countP_cons_of_pos hc]
    exact Nat.succ_pos _

theorem ok {found : α} (h : t <:+ s) : Consumes depth s (.ok (found, t)) where
  rest := by
    intro _ rest hended
    obtain ⟨-, rfl⟩ := Prod.mk.inj (Except.ok.inj hended)
    exact h
  error := nofun

theorem of_suffix {ended : Except ReadError (α × Text)} (h : Consumes depth s ended)
    (hst : s <:+ t) : Consumes depth t ended where
  rest found rest hended := (h.rest found rest hended).trans hst
  error error hended := (h.error error hended).imp_right (·.of_isInfix hst.isInfix)

theorem of_opening {c : CodePoint} (hc : isOpening c = true) {ended : Except ReadError (α × Text)}
    (h : Consumes depth s ended) : Consumes (depth + 1) (c :: s) ended where
  rest found rest hended := (h.rest found rest hended).trans (List.suffix_cons c s)
  error error hended := (h.error error hended).imp_right (·.of_opening hc)

theorem bind {first : Except ReadError (α × Text)} {next : α × Text → Except ReadError (β × Text)}
    (h : Consumes depth s first)
    (hnext : ∀ found rest, rest <:+ s → Consumes depth rest (next (found, rest))) :
    Consumes depth s (first >>= next) := by
  constructor
  · intro found rest hended
    obtain ⟨⟨taken, left⟩, hfirst, hended⟩ := bind_eq_ok hended
    have hleft : left <:+ s := h.rest taken left hfirst
    exact ((hnext taken left hleft).rest found rest hended).trans hleft
  · intro error hended
    rcases bind_eq_error hended with hfirst | ⟨⟨taken, left⟩, hfirst, hended⟩
    · exact h.error error hfirst
    · have hleft : left <:+ s := h.rest taken left hfirst
      exact ((hnext taken left hleft).of_suffix hleft).error error hended

end Consumes

theorem skipGap_suffix (s : Text) : skipGap s <:+ s := List.dropWhile_suffix _

theorem skipGap_eq_cons {c : CodePoint} {rest : Text} (h : skipGap s = c :: rest) : rest <:+ s := by
  have hgap := skipGap_suffix s
  rw [h] at hgap
  exact (List.suffix_cons c rest).trans hgap

theorem pieces_suffix {found : List Piece} {rest : Text} (h : pieces s = some (found, rest)) :
    rest <:+ s := by
  fun_induction pieces s generalizing found with
  | case1 s =>
      obtain ⟨-, rfl⟩ := Prod.mk.inj (Option.some.inj h)
      exact List.suffix_cons _ _
  | case2 a b c d s n hn ih =>
      obtain ⟨⟨more, rest⟩, hmore, hfound⟩ := Option.map_eq_some_iff.mp h
      obtain ⟨-, rfl⟩ := Prod.mk.inj hfound
      exact (ih hmore).trans ⟨['\\', 'u', a, b, c, d], rfl⟩
  | case4 c s hc found' hletter ih =>
      obtain ⟨⟨more, rest⟩, hmore, hfound⟩ := Option.map_eq_some_iff.mp h
      obtain ⟨-, rfl⟩ := Prod.mk.inj hfound
      exact (ih hmore).trans ⟨['\\', c], rfl⟩
  | case7 c s _ _ _ hplain ih =>
      obtain ⟨⟨more, rest⟩, hmore, hfound⟩ := Option.map_eq_some_iff.mp h
      obtain ⟨-, rfl⟩ := Prod.mk.inj hfound
      exact (ih hmore).trans (List.suffix_cons c s)
  | case3 | case5 | case6 | case8 => exact absurd h nofun

theorem consumes_string (depth : Nat) (s : Text) : Consumes depth s (string s) := by
  unfold string
  split
  · rename_i found rest hpieces
    exact .ok (pieces_suffix hpieces)
  · exact .malformed

theorem wholePart?_eq_some {whole rest : Text} (h : wholePart? s = some (whole, rest)) :
    s = whole ++ rest ∧ ∀ c ∈ whole, c.isDigit = true := by
  unfold wholePart? at h
  split at h
  · obtain ⟨rfl, rfl⟩ := Prod.mk.inj (Option.some.inj h)
    exact ⟨rfl, by decide⟩
  · dsimp only at h
    split at h
    · exact absurd h nofun
    · obtain ⟨rfl, rfl⟩ := Prod.mk.inj (Option.some.inj h)
      exact ⟨List.takeWhile_append_dropWhile.symm, fun c hc => List.mem_takeWhile_imp hc⟩

theorem fractionPart_suffix (s : Text) : (fractionPart s).2 <:+ s := by
  unfold fractionPart
  split
  · dsimp only
    split
    · exact List.suffix_refl _
    · exact (List.dropWhile_suffix _).trans (List.suffix_cons _ _)
  · exact List.suffix_refl _

theorem exponentPart_suffix (s : Text) : (exponentPart s).2 <:+ s := by
  fun_cases exponentPart s with
  | case2 c rest hc negative body hbody digits hdigits =>
      have hrest : body <:+ rest := by
        split at hbody
        all_goals obtain ⟨-, rfl⟩ := Prod.mk.inj hbody
        · exact List.suffix_cons _ _
        · exact List.suffix_cons _ _
        · exact List.suffix_refl _
      exact (List.dropWhile_suffix _).trans (hrest.trans (List.suffix_cons c rest))
  | case1 | case3 | case4 => exact List.suffix_refl _

theorem consumes_number (depth : Nat) (negative : Bool) (s : Text) :
    Consumes depth s (number negative s) := by
  unfold number
  split
  · exact .malformed
  · rename_i whole rest hwhole
    obtain ⟨rfl, hdigits⟩ := wholePart?_eq_some hwhole
    have hrest : (exponentPart (fractionPart rest).2).2 <:+ whole ++ rest :=
      (exponentPart_suffix _).trans
        ((fractionPart_suffix rest).trans (List.suffix_append whole rest))
    dsimp only
    split
    · split
      · rename_i hlong
        refine ⟨nofun, fun error hended => Or.inr ?_⟩
        obtain rfl := Except.error.inj hended
        exact .digits (List.prefix_append whole rest).isInfix hdigits hlong
      · exact .ok hrest
    · exact .ok hrest

theorem consumes_scalar (depth : Nat) (s : Text) : Consumes depth s (scalar s) := by
  unfold scalar
  split
  · rename_i found hfound
    obtain ⟨⟨word, data⟩, -, rfl⟩ := Option.map_eq_some_iff.mp hfound
    exact .ok (List.drop_suffix _ _)
  · split
    · exact (consumes_number depth true _).of_suffix (List.suffix_cons _ _)
    · exact consumes_number depth false s

section

variable {fuel : Nat}

theorem consumes_value_succ
    (hitems : ∀ depth s, Consumes depth s (items fuel depth s))
    (hentries : ∀ depth before s, Consumes depth s (entries fuel depth before s))
    (depth : Nat) (s : Text) : Consumes depth s (value (fuel + 1) depth s) := by
  rw [value.eq_def]
  dsimp only
  split
  · apply Consumes.of_suffix _ (List.suffix_cons _ _)
    exact (consumes_string depth _).bind fun _ rest _ => .ok (List.suffix_refl rest)
  · split
    · exact Consumes.tooDeep (by decide)
    · apply Consumes.of_opening (by decide)
      split
      · rename_i rest hrest
        exact .ok (skipGap_eq_cons hrest)
      · apply Consumes.of_suffix _ (skipGap_suffix _)
        exact (hitems _ _).bind fun _ rest _ => .ok (List.suffix_refl rest)
  · split
    · exact Consumes.tooDeep (by decide)
    · apply Consumes.of_opening (by decide)
      split
      · rename_i rest hrest
        exact .ok (skipGap_eq_cons hrest)
      · apply Consumes.of_suffix _ (skipGap_suffix _)
        exact (hentries _ _ _).bind fun _ rest _ => .ok (List.suffix_refl rest)
  · exact consumes_scalar depth s

theorem consumes_items_succ
    (hvalue : ∀ depth s, Consumes depth s (value fuel depth s))
    (hitems : ∀ depth s, Consumes depth s (items fuel depth s))
    (depth : Nat) (s : Text) : Consumes depth s (items (fuel + 1) depth s) := by
  rw [items]
  apply (hvalue depth s).bind
  intro item rest _
  dsimp only
  split
  · rename_i behind hbehind
    exact .ok (skipGap_eq_cons hbehind)
  · rename_i behind hbehind
    have hsuffix : skipGap behind <:+ rest :=
      (skipGap_suffix behind).trans (skipGap_eq_cons hbehind)
    apply Consumes.of_suffix _ hsuffix
    exact (hitems depth _).bind fun _ rest _ => .ok (List.suffix_refl rest)
  · exact .malformed

theorem consumes_entries_succ
    (hvalue : ∀ depth s, Consumes depth s (value fuel depth s))
    (hentries : ∀ depth before s, Consumes depth s (entries fuel depth before s))
    (depth : Nat) (before : List (Text × Datum)) (s : Text) :
    Consumes depth s (entries (fuel + 1) depth before s) := by
  rw [entries.eq_def]
  dsimp only
  split
  · apply Consumes.of_suffix _ (List.suffix_cons _ _)
    apply (consumes_string depth _).bind
    intro key rest _
    dsimp only
    split
    · rename_i behind hbehind
      have hsuffix : skipGap behind <:+ rest :=
        (skipGap_suffix behind).trans (skipGap_eq_cons hbehind)
      apply Consumes.of_suffix _ hsuffix
      apply (hvalue depth _).bind
      intro item rest _
      dsimp only
      split
      · rename_i behind hbehind
        exact .ok (skipGap_eq_cons hbehind)
      · rename_i behind hbehind
        apply Consumes.of_suffix (hentries _ _ _)
        exact (skipGap_suffix behind).trans (skipGap_eq_cons hbehind)
      · exact .malformed
    · exact .malformed
  · exact .malformed

end

/-- Reading a value, the items of a list or the entries of a map takes a text from its
front, and stops only where the text is malformed or passes a limit. -/
theorem consumes_all (fuel : Nat) :
    (∀ depth s, Consumes depth s (value fuel depth s)) ∧
      (∀ depth s, Consumes depth s (items fuel depth s)) ∧
      ∀ depth before s, Consumes depth s (entries fuel depth before s) := by
  induction fuel with
  | zero =>
      refine ⟨fun depth s => ?_, fun depth s => ?_, fun depth before s => ?_⟩
      · rw [value]
        exact .malformed
      · rw [items]
        exact .malformed
      · rw [entries]
        exact .malformed
  | succ fuel ih =>
      obtain ⟨hvalue, hitems, hentries⟩ := ih
      exact ⟨consumes_value_succ hitems hentries, consumes_items_succ hvalue hitems,
        consumes_entries_succ hvalue hentries⟩

theorem passesLimit_of_read (h : read depth s = .error error) :
    error = .malformed ∨ PassesLimit depth s error := by
  have hread : Consumes depth s (value (2 * s.length + 2) depth (skipGap s)) :=
    ((consumes_all _).1 depth (skipGap s)).of_suffix (skipGap_suffix s)
  rcases bind_eq_error h with hvalue | ⟨⟨data, rest⟩, -, hend⟩
  · exact hread.error error hvalue
  · dsimp only at hend
    split at hend
    · exact absurd hend nofun
    · exact Or.inl (Except.error.inj hend).symm

theorem value_openings {fuel depth n : Nat} (hfuel : 2 * depth < fuel) (hn : depth < n) :
    value fuel depth (List.replicate n (.char '[')) = .error .tooDeep := by
  induction depth generalizing fuel n with
  | zero =>
      obtain ⟨fuel, rfl⟩ := Nat.exists_eq_succ_of_ne_zero (Nat.ne_of_gt hfuel)
      obtain ⟨n, rfl⟩ := Nat.exists_eq_succ_of_ne_zero (Nat.ne_of_gt hn)
      rw [List.replicate_succ, value]
  | succ depth ih =>
      obtain ⟨fuel, rfl⟩ : ∃ less, fuel = less + 2 := ⟨fuel - 2, by omega⟩
      obtain ⟨n, rfl⟩ : ∃ less, n = less + 2 := ⟨n - 2, by omega⟩
      have hinner : value fuel depth (List.replicate (n + 1) '[') = .error .tooDeep :=
        ih (by omega) (by omega)
      have hgap : skipGap (List.replicate (n + 1) (.char '[')) =
          CodePoint.char '[' :: List.replicate n (.char '[') := rfl
      have hitems : items (fuel + 1) depth (List.replicate (n + 1) (.char '[')) =
          .error .tooDeep := by
        rw [items, hinner]
        rfl
      rw [List.replicate_succ, value, hgap]
      change (items (fuel + 1) depth (List.replicate (n + 1) (.char '[')) >>= _) = _
      rw [hitems]
      rfl

theorem number_digits (negative : Bool) {c : CodePoint} {s : Text} (hc : c ≠ .char '0')
    (hdigits : ∀ d ∈ c :: s, d.isDigit = true) (hlong : Text.maxDigits < (c :: s).length) :
    number negative (c :: s) = .error (.tooManyDigits (c :: s).length) := by
  have htaken : (c :: s).takeWhile CodePoint.isDigit = c :: s :=
    List.takeWhile_eq_self_iff.mpr hdigits
  have hleft : (c :: s).dropWhile CodePoint.isDigit = [] :=
    List.dropWhile_eq_nil_iff.mpr hdigits
  have hwhole : wholePart? (c :: s) = some (c :: s, []) := by
    unfold wholePart?
    split
    · rename_i heq
      exact absurd (List.cons.inj heq).1 hc
    · rw [htaken, hleft]
      rfl
  rw [number, hwhole]
  exact if_pos hlong

theorem ne_of_isDigit {c d : CodePoint} (hc : c.isDigit = true) (hd : d.isDigit = false) :
    c ≠ d := by
  rintro rfl
  exact absurd hc (by simp [hd])

theorem isGap_of_isDigit {c : CodePoint} (hc : c.isDigit = true) : isGap c = false := by
  rw [Bool.eq_false_iff]
  intro hgap
  simp only [isGap, Bool.or_eq_true, beq_iff_eq] at hgap
  rcases hgap with ((rfl | rfl) | rfl) | rfl
  all_goals exact absurd hc (by decide)

theorem constant?_of_isDigit {c : CodePoint} {s : Text} (hc : c.isDigit = true) :
    constant? (c :: s) = none := by
  have hconstants : ∀ entry ∈ constants, entry.1.head?.map CodePoint.isDigit = some false := by
    decide
  rw [constant?, Option.map_eq_none_iff, List.find?_eq_none]
  intro entry hentry hprefix
  obtain ⟨first, hfirst, hdigit⟩ := Option.map_eq_some_iff.mp (hconstants entry hentry)
  obtain ⟨more, hword⟩ := List.isPrefixOf_iff_prefix.mp hprefix
  have hhead : (entry.1 ++ more).head? = some first := by
    rw [List.head?_append, hfirst, Option.some_or]
  rw [hword] at hhead
  exact ne_of_isDigit hc hdigit (Option.some.inj hhead)

theorem value_digits {fuel depth : Nat} {c : CodePoint} {s : Text} (hc : c ≠ .char '0')
    (hdigits : ∀ d ∈ c :: s, d.isDigit = true) (hlong : Text.maxDigits < (c :: s).length) :
    value (fuel + 1) depth (c :: s) = .error (.tooManyDigits (c :: s).length) := by
  have hfirst : c.isDigit = true := hdigits c (List.mem_cons_self)
  rw [value.eq_def]
  dsimp only
  split
  · rename_i rest heq
    exact absurd (List.cons.inj heq).1 (ne_of_isDigit hfirst (by decide))
  · rename_i rest heq
    exact absurd (List.cons.inj heq).1 (ne_of_isDigit hfirst (by decide))
  · rename_i rest heq
    exact absurd (List.cons.inj heq).1 (ne_of_isDigit hfirst (by decide))
  · rw [scalar, constant?_of_isDigit hfirst]
    · exact number_digits false hc hdigits hlong
    · intro rest heq
      exact absurd (List.cons.inj heq).1 (ne_of_isDigit hfirst (by decide))

end PageScript.Datum.Json
