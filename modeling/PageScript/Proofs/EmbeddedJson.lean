import Mathlib
import PageScript.Proofs.JsonValues
import PageScript.Proofs.RefusedReplies
/-!
JSON that a reply holds between other text.  The fences and the blanks around it are cut off, the
words before it keep the whole from being JSON, and the last closing bracket of the reply is
its own.
-/

namespace PageScript

section

variable {α : Type} {s front behind : List α} {c : α}

theorem prefix_of_append_cons (h : s <+: front ++ c :: behind) (hc : c ∉ s) : s <+: front := by
  rcases List.prefix_or_prefix_of_prefix h (List.prefix_append front (c :: behind)) with hs | hs
  · exact hs
  · obtain ⟨more, rfl⟩ := hs
    cases more with
    | nil => exact (List.append_nil front).symm ▸ List.prefix_refl front
    | cons d more =>
        obtain ⟨rfl, -⟩ := List.cons_prefix_cons.mp ((List.prefix_append_right_inj front).mp h)
        exact absurd (List.mem_append_right front List.mem_cons_self) hc

theorem suffix_of_append_cons (h : s <:+ front ++ c :: behind) (hc : c ∉ s) : s <:+ behind := by
  rw [← List.reverse_prefix] at h ⊢
  rw [List.reverse_append, List.reverse_cons, List.append_assoc] at h
  exact prefix_of_append_cons h (by rwa [List.mem_reverse])

theorem infix_of_append (h : s <:+: front ++ behind) (hbehind : ∀ c ∈ s, c ∉ behind) :
    s <:+: front := by
  induction behind using List.reverseRecOn with
  | nil => rwa [List.append_nil] at h
  | append_singleton behind d ih =>
      rw [← List.append_assoc, List.infix_concat_iff] at h
      rcases h with hlast | hinner
      · rcases List.suffix_concat_iff.mp hlast with rfl | ⟨more, rfl, -⟩
        · exact List.nil_infix
        · exact absurd (List.mem_concat_self) (hbehind d List.mem_concat_self)
      · exact ih hinner fun c hc hmem => hbehind c hc (List.mem_append_left [d] hmem)

end

namespace Reply

open Datum.Json

variable {depth : Nat} {reply front inner back : Text} {o : CodePoint} {v : Datum}

/-- A text between an opening bracket and the closing one of its kind. -/
def enclosed (o : CodePoint) (inner : Text) : Text := o :: (inner ++ [closingOf o])

theorem isBlank_of_isGap {c : CodePoint} (hc : isGap c = true) : Text.isBlank c = true := by
  rcases gap_cases hc with ((rfl | rfl) | rfl) | rfl <;> decide

theorem plain_of_isGap {c : CodePoint} (hc : isGap c = true) :
    isOpening c = false ∧ c ≠ .char '"' := by
  rcases gap_cases hc with ((rfl | rfl) | rfl) | rfl <;> decide

theorem isBlank_of_isOpening (ho : isOpening o = true) :
    Text.isBlank o = false ∧ Text.isBlank (closingOf o) = false := by
  rcases opening_cases ho with rfl | rfl <;> decide

theorem notMem_fence_of_isOpening (ho : isOpening o = true) : o ∉ fence ∧ closingOf o ∉ fence := by
  rcases opening_cases ho with rfl | rfl <;> decide

theorem isTrimmed_enclosed (ho : isOpening o = true) (inner : Text) :
    Text.IsTrimmed (enclosed o inner) where
  first c hc := by
    obtain rfl := Option.some.inj hc
    exact (isBlank_of_isOpening ho).1
  last c hc := by
    rw [enclosed, ← List.cons_append, List.getLast?_concat] at hc
    obtain rfl := Option.some.inj hc
    exact (isBlank_of_isOpening ho).2

theorem dropOpeningFence_enclosed (ho : isOpening o = true)
    (hfence : fence <+: front → .char '\n' ∈ front) (inner back : Text) :
    ∃ left, left <:+ front ∧
      dropOpeningFence (front ++ (enclosed o inner ++ back)) =
        left ++ (enclosed o inner ++ back) := by
  unfold dropOpeningFence
  split
  · rename_i hprefix
    have hfront : fence <+: front :=
      prefix_of_append_cons (List.isPrefixOf_iff_prefix.mp hprefix) (notMem_fence_of_isOpening ho).1
    have hleft : front.dropWhile (· != .char '\n') ≠ [] := by
      intro hnil
      simpa using List.dropWhile_eq_nil_iff.mp hnil _ (hfence hfront)
    obtain ⟨c, left, hline⟩ := List.exists_cons_of_ne_nil hleft
    refine ⟨left, ?_, ?_⟩
    · exact (List.suffix_cons c left).trans (hline ▸ List.dropWhile_suffix _)
    · rw [List.dropWhile_append, hline]
      rfl
  · exact ⟨front, List.suffix_refl front, rfl⟩

theorem dropClosingFence_enclosed (ho : isOpening o = true) (front inner back : Text) :
    ∃ right, right <+: back ∧
      dropClosingFence (front ++ (enclosed o inner ++ back)) =
        front ++ (enclosed o inner ++ right) := by
  unfold dropClosingFence
  split
  · rename_i hsuffix
    have htext : front ++ (enclosed o inner ++ back) =
        (front ++ o :: inner) ++ closingOf o :: back := by
      simp [enclosed]
    have hback : fence <:+ back :=
      suffix_of_append_cons (htext ▸ List.isSuffixOf_iff_suffix.mp hsuffix)
        (notMem_fence_of_isOpening ho).2
    obtain ⟨right, rfl⟩ := hback
    refine ⟨right, List.prefix_append right fence, ?_⟩
    have hcut : front ++ (enclosed o inner ++ (right ++ fence)) =
        front ++ (enclosed o inner ++ right) ++ fence := by
      simp only [List.append_assoc]
    rw [hcut, List.length_append, Nat.add_sub_cancel, List.take_left]
  · exact ⟨back, List.prefix_refl back, rfl⟩

theorem unfenced_enclosed (ho : isOpening o = true)
    (hfence : fence <+: Text.trimStart front → .char '\n' ∈ Text.trimStart front)
    (inner back : Text) :
    ∃ left right, left <:+ front ∧ right <+: back ∧ (∀ c ∈ left.head?, Text.isBlank c = false) ∧
      unfenced (front ++ (enclosed o inner ++ back)) = left ++ (enclosed o inner ++ right) := by
  have htrimmed := isTrimmed_enclosed ho inner
  have hne : enclosed o inner ≠ [] := List.cons_ne_nil _ _
  obtain ⟨left, hleft, hopening⟩ :=
    dropOpeningFence_enclosed ho hfence inner (Text.trimEnd back)
  obtain ⟨right, hright, hclosing⟩ :=
    dropClosingFence_enclosed ho left inner (Text.trimEnd back)
  refine ⟨Text.trimStart left, Text.trimEnd right, ?_, ?_, Text.trimStart_first left, ?_⟩
  · exact (List.dropWhile_suffix _).trans (hleft.trans (List.dropWhile_suffix _))
  · exact (Text.trimEnd_isPrefix right).trans (hright.trans (Text.trimEnd_isPrefix back))
  · rw [unfenced, Text.trim_around htrimmed hne, hopening, hclosing, Text.trim_around htrimmed hne]

theorem uptoLast_append {c : CodePoint} (hback : c ∉ back) (s : Text) :
    uptoLast c (s ++ c :: back) = s ++ [c] := by
  have hall : ∀ d ∈ back.reverse, (d != c) = true := fun d hd => by
    rw [bne_iff_ne]
    rintro rfl
    exact hback (List.mem_reverse.mp hd)
  have hhead : ∀ d ∈ (c :: s.reverse).head?, (d != c) = false := by simp
  obtain ⟨-, hdrop⟩ := takeWhile_append_of_head hall hhead
  rw [uptoLast, List.reverse_append, List.reverse_cons, List.append_assoc, List.singleton_append,
    hdrop, List.reverse_cons, List.reverse_reverse]

theorem bracketed?_enclosed (ho : isOpening o = true) (hfront : ∀ c ∈ front, isOpening c = false)
    (hback : closingOf o ∉ back) :
    bracketed? (front ++ (enclosed o inner ++ back)) = some (enclosed o inner) := by
  have hskip : (front ++ (enclosed o inner ++ back)).dropWhile (fun c => !isOpening c) =
      o :: (inner ++ [closingOf o] ++ back) := by
    have hall : ∀ c ∈ front, (!isOpening c) = true := fun c hc => by rw [hfront c hc]; rfl
    rw [List.dropWhile_append_of_pos hall]
    exact List.dropWhile_cons_of_neg (by simp [ho])
  have hcut : uptoLast (closingOf o) (o :: (inner ++ [closingOf o] ++ back)) =
      enclosed o inner := by
    have htext : o :: (inner ++ [closingOf o] ++ back) = (o :: inner) ++ closingOf o :: back := by
      simp
    rw [htext, uptoLast_append hback]
    rfl
  rw [bracketed?, hskip]
  dsimp only
  rw [hcut]
  rfl

theorem json_of_bracketed? (hwhole : readJson? depth (unfenced reply) = .ok none)
    (hinner : bracketed? (unfenced reply) = some inner)
    (hread : Datum.Json.read depth inner = .ok v) : json depth reply = .ok v := by
  have hpart : readJson? depth inner = .ok (some v) := by
    rw [readJson?, hread]
  unfold json
  dsimp only
  rw [hwhole, hinner]
  dsimp only [Bind.bind, Except.bind]
  rw [hpart]
  rfl

theorem json_of_read (hread : Datum.Json.read depth (unfenced reply) = .ok v) :
    json depth reply = .ok v := by
  have hwhole : readJson? depth (unfenced reply) = .ok (some v) := by
    rw [readJson?, hread]
  unfold json
  dsimp only
  rw [hwhole]
  rfl

theorem newline_of_fence {p gap : Text} (hgap : ∀ c ∈ gap, isGap c = true)
    (hfence : fence <+: Text.trimStart p → .char '\n' ∈ Text.trimStart p) :
    fence <+: Text.trimStart (p ++ gap) → .char '\n' ∈ Text.trimStart (p ++ gap) := by
  unfold Text.trimStart at hfence ⊢
  rw [List.dropWhile_append]
  split
  · have hblank : gap.dropWhile Text.isBlank = [] :=
      List.dropWhile_eq_nil_iff.mpr fun c hc => isBlank_of_isGap (hgap c hc)
    rw [hblank]
    exact fun h => absurd (List.prefix_nil.mp h) (by decide)
  · refine fun h => List.mem_append_left gap (hfence ?_)
    cases gap with
    | nil => rwa [List.append_nil] at h
    | cons g gap =>
        refine prefix_of_append_cons h fun hmem => ?_
        have hnone : ∀ c ∈ fence, isGap c = false := by decide
        exact absurd (hgap g List.mem_cons_self) (by rw [hnone g hmem]; decide)

theorem infix_of_digits {run behind : Text} (ho : isOpening o = true)
    (hdigits : ∀ c ∈ run, c.isDigit = true)
    (h : run <+: front ++ o :: behind ∨ .char '-' :: run <+: front ++ o :: behind) :
    run <:+: front := by
  have hrun : o ∉ run := fun hmem => by
    rw [isOpening_of_isDigit (hdigits o hmem)] at ho
    exact absurd ho nofun
  rcases h with h | h
  · exact (prefix_of_append_cons h hrun).isInfix
  · refine (List.suffix_cons (.char '-') run).isInfix.trans (prefix_of_append_cons h ?_).isInfix
    rw [List.mem_cons, not_or]
    refine ⟨?_, hrun⟩
    rintro rfl
    exact absurd ho (by decide)

/-- What stands between brackets of its own in a reply is the JSON of the reply. -/
theorem json_of_unfenced {left right : Text}
    (hunfenced : unfenced reply = left ++ (enclosed o inner ++ right))
    (hvalue : ValueText depth v (enclosed o inner)) (hv : closing? v ≠ none)
    (ho : isOpening o = true) (hfirst : ∀ c ∈ left.head?, Text.isBlank c = false)
    (hleft : ∀ c ∈ left, isOpening c = false ∧ c ≠ .char '"')
    (hruns : ∀ run, run <:+: left → (∀ c ∈ run, c.isDigit = true) → run.length ≤ Text.maxDigits)
    (hright : closingOf o ∉ right) : json depth reply = .ok v := by
  have hinner : bracketed? (unfenced reply) = some (enclosed o inner) := by
    rw [hunfenced]
    exact bracketed?_enclosed ho (fun c hc => (hleft c hc).1) hright
  have hread : Datum.Json.read depth (enclosed o inner) = .ok v :=
    List.append_nil (enclosed o inner) ▸ hvalue.read_append hv []
  cases left with
  | nil =>
      -- The value is what the reader comes upon; behind it may be nothing, or words.
      have hwhole := hvalue.read_append hv right
      rw [List.nil_append] at hunfenced
      split at hwhole
      · exact json_of_read (hunfenced ▸ hwhole)
      · exact json_of_bracketed? (by rw [readJson?, hunfenced, hwhole]) hinner hread
  | cons c left =>
      have hwhole : Datum.Json.read depth (c :: (left ++ (enclosed o inner ++ right))) =
          .error .malformed := by
        obtain ⟨hopening, hquote⟩ := hleft c List.mem_cons_self
        refine read_plain ?_ hopening hquote (List.mem_append_right left List.mem_cons_self) ho ?_
        · rw [Bool.eq_false_iff]
          exact fun hgap => absurd (isBlank_of_isGap hgap) (by rw [hfirst c rfl]; decide)
        · exact fun run hrun hdigits => hruns run (infix_of_digits ho hdigits hrun) hdigits
      exact json_of_bracketed? (by rw [readJson?, hunfenced, List.cons_append, hwhole]) hinner hread

/-- A list or a map is read from a reply whatever words and fences stand around it: before it no
opening bracket, no quote and no integer of too many digits, and the line of a fence that the
reply begins with is ended; behind it no closing bracket of its kind. -/
theorem json_embedded {p j t : Text} {b : CodePoint} (hj : Datum.Json.read depth j = .ok v)
    (hb : closing? v = some b) (hp : ∀ c ∈ p, isOpening c = false ∧ c ≠ .char '"')
    (hruns : ∀ run, run <:+: p → (∀ c ∈ run, c.isDigit = true) → run.length ≤ 4300)
    (hfence : fence <+: Text.trimStart p → .char '\n' ∈ Text.trimStart p) (ht : b ∉ t) :
    json depth (p ++ j ++ t) = .ok v := by
  obtain ⟨gap, core, behind, rfl, hgap, hbehind, hvalue⟩ := exists_valueText hj
  obtain ⟨o, inner, hbrackets, ho, rfl⟩ := hvalue.brackets b hb
  obtain rfl : core = enclosed o inner := hbrackets
  have htext : p ++ (gap ++ (enclosed o inner ++ behind)) ++ t =
      p ++ gap ++ (enclosed o inner ++ (behind ++ t)) := by
    simp only [List.append_assoc]
  obtain ⟨left, right, hleft, hright, hfirst, hunfenced⟩ :=
    unfenced_enclosed ho (newline_of_fence hgap hfence) inner (behind ++ t)
  rw [htext]
  refine json_of_unfenced hunfenced hvalue (by rw [hb]; nofun) ho hfirst ?_ ?_ ?_
  · intro c hc
    rcases List.mem_append.mp (hleft.subset hc) with hc | hc
    · exact hp c hc
    · exact plain_of_isGap (hgap c hc)
  · intro run hrun hdigits
    refine hruns run (infix_of_append (hrun.trans hleft.isInfix) fun d hd hmem => ?_) hdigits
    exact absurd (hgap d hmem) (by rw [isGap_of_isDigit (hdigits d hd)]; decide)
  · intro hmem
    rcases List.mem_append.mp (hright.subset hmem) with hmem | hmem
    · have hblank := isBlank_of_isGap (hbehind _ hmem)
      exact absurd hblank (by rw [(isBlank_of_isOpening ho).2]; decide)
    · exact ht hmem

/-- In the line of a fence, behind a sentence, and in front of the closing fence and another
sentence with brackets: a map whose text holds a closing bracket and a fence. -/
theorem json_fencedMap_embedded :
    json maxDepth ((fence ++ "json\nThe map: ") ++ ("\x7b\"a\":\"\x7d" ++ fence ++ "\"\x7d") ++
        ("\n" ++ fence ++ "\nSee [1].")) =
      .ok (.map [("a", .text ("\x7d" ++ fence))]) := by
  have hread : Datum.Json.read maxDepth ("\x7b\"a\":\"\x7d" ++ fence ++ "\"\x7d") =
      .ok (.map [("a", .text ("\x7d" ++ fence))]) := by cbv
  have hb : closing? (.map [("a", .text ("\x7d" ++ fence))]) = some '\x7d' := rfl
  refine json_embedded hread hb (by decide) ?_ (fun _ => by decide) (by decide)
  exact fun run hrun _ => hrun.length_le.trans (by decide)

end Reply

end PageScript
