import Mathlib
import PageScript.Proofs.EmbeddedJson
import PageScript.Proofs.NestedBrackets
/-!
JSON in a block of code.  The line of the opening fence is dropped as a whole.  What is left of
a list or a map that begins in this line stands behind its bracket, and no part of that is the
list or the map again.
-/

namespace PageScript.Reply

open Datum.Json

variable {depth : Nat} {line front back gap j s part inner reply : Text} {o b c : CodePoint}
  {v : Datum}

theorem skips_of_notMem (hs : .char '\n' ∉ s) : ∀ c ∈ s, (c != .char '\n') = true := by
  intro c hc
  rw [bne_iff_ne]
  rintro rfl
  exact hs hc

theorem dropOpeningFence_line (hline : .char '\n' ∉ line) (s : Text) :
    dropOpeningFence (fence ++ line ++ s) = (s.dropWhile (· != .char '\n')).drop 1 := by
  have hprefix : fence.isPrefixOf (fence ++ line ++ s) = true :=
    List.isPrefixOf_iff_prefix.mpr (by rw [List.append_assoc]; exact List.prefix_append _ _)
  have hskip : .char '\n' ∉ fence ++ line := by
    rw [List.mem_append, not_or]
    exact ⟨by decide, hline⟩
  rw [dropOpeningFence, if_pos hprefix, List.dropWhile_append_of_pos (skips_of_notMem hskip)]

theorem dropClosingFence_append (s : Text) : dropClosingFence (s ++ fence) = s := by
  have hsuffix : fence.isSuffixOf (s ++ fence) = true :=
    List.isSuffixOf_iff_suffix.mpr (List.suffix_append s fence)
  rw [dropClosingFence, if_pos hsuffix, List.length_append, Nat.add_sub_cancel, List.take_left]

/-- A text in a block of code, with blanks in front of the closing fence. -/
def fenced (line s gap : Text) : Text := fence ++ line ++ s ++ gap ++ fence

theorem unfenced_fenced (hline : .char '\n' ∉ line) (s gap : Text) :
    unfenced (fenced line s gap) = Text.trim (dropClosingFence
      (((s ++ gap ++ fence).dropWhile (· != .char '\n')).drop 1)) := by
  have hfence : Text.IsTrimmed fence := Text.isTrimmed_of_solid (by decide)
  have htrimmed : Text.IsTrimmed (fenced line s gap) := by
    have haround := hfence.around (by decide) hfence (by decide) (line ++ s ++ gap)
    simpa only [fenced, List.append_assoc] using haround
  have htext : fenced line s gap = fence ++ line ++ (s ++ gap ++ fence) := by
    simp only [fenced, List.append_assoc]
  rw [unfenced, htrimmed.trim_eq, htext, dropOpeningFence_line hline]

theorem unfenced_line (hline : .char '\n' ∉ line) (hs : .char '\n' ∉ s)
    (hgap : .char '\n' ∉ gap) : unfenced (fenced line s gap) = [] := by
  have hnone : .char '\n' ∉ s ++ gap ++ fence := by
    rw [List.mem_append, List.mem_append, not_or, not_or]
    exact ⟨⟨hs, hgap⟩, by decide⟩
  rw [unfenced_fenced hline, List.dropWhile_eq_nil_iff.mpr (skips_of_notMem hnone)]
  rfl

theorem unfenced_lines (hline : .char '\n' ∉ line) (hfront : .char '\n' ∉ front)
    (back gap : Text) :
    unfenced (fenced line (front ++ .char '\n' :: back) gap) = Text.trim (back ++ gap) := by
  have htext : front ++ .char '\n' :: back ++ gap ++ fence =
      front ++ .char '\n' :: (back ++ gap ++ fence) := by
    simp
  rw [unfenced_fenced hline, htext, List.dropWhile_append_of_pos (skips_of_notMem hfront),
    List.dropWhile_cons_of_neg (by decide), List.drop_one, List.tail_cons, dropClosingFence_append]

theorem read_of_readJson? (h : readJson? depth s = .ok (some v)) :
    Datum.Json.read depth s = .ok v := by
  unfold readJson? at h
  split at h
  · rename_i data hread
    obtain rfl := Option.some.inj (Except.ok.inj h)
    exact hread
  all_goals exact absurd h nofun

theorem json_eq_ok (h : json depth reply = .ok v) :
    ∃ part, (part = unfenced reply ∨ bracketed? (unfenced reply) = some part) ∧
      Datum.Json.read depth part = .ok v := by
  obtain ⟨data?, hwhole, h⟩ := bind_eq_ok h
  cases data? with
  | some data =>
      obtain rfl := Except.ok.inj h
      exact ⟨_, .inl rfl, read_of_readJson? hwhole⟩
  | none =>
      dsimp only at h
      split at h
      · exact absurd h nofun
      · rename_i part hpart
        obtain ⟨found?, hread, h⟩ := bind_eq_ok h
        cases found? with
        | some data =>
            obtain rfl := Except.ok.inj h
            exact ⟨part, .inr hpart, read_of_readJson? hread⟩
        | none => exact absurd h nofun

theorem closing_of_isOpening (ho : isOpening o = true) :
    isClosing (closingOf o) = true ∧ isGap (closingOf o) = false := by
  rcases opening_cases ho with rfl | rfl <;> decide

/-- Behind the opening bracket of a value no list or map is read again to the closing bracket. -/
theorem read_ne_of_suffix (hinner : IsNested inner) (hv : closing? v = some b)
    (hsuffix : part <:+ inner ++ [b]) : Datum.Json.read depth part ≠ .ok v := by
  intro hread
  obtain ⟨gap, core, behind, rfl, hgap, hbehind, hvalue⟩ := exists_valueText hread
  obtain ⟨o, within, rfl, ho, rfl⟩ := hvalue.brackets b hv
  obtain ⟨hclosing, hsolid⟩ := closing_of_isOpening ho
  have hend : behind = [] := by
    induction behind using List.reverseRecOn with
    | nil => rfl
    | append_singleton behind d =>
        obtain ⟨front, hfront⟩ := hsuffix
        have hlast : d = closingOf o := by
          simp only [← List.append_assoc] at hfront
          exact List.head_eq_of_cons_eq (List.append_inj' hfront rfl).2
        exact absurd (hbehind d List.mem_concat_self) (by rw [hlast, hsolid]; decide)
  have hcore : o :: (within ++ [closingOf o]) <:+ inner ++ [closingOf o] := by
    rw [hend, List.append_nil] at hsuffix
    exact (List.suffix_append gap _).trans hsuffix
  exact hinner.not_of_suffix hclosing ho hcore (hvalue.nested (by rw [hv]; nofun)).whole

theorem closingOf_of_read (hread : Datum.Json.read depth (c :: s) = .ok v) (hc : isOpening c = true)
    (hv : closing? v = some b) : closingOf c = b := by
  obtain ⟨gap, core, behind, htext, hgap, -, hvalue⟩ := exists_valueText hread
  obtain ⟨o, within, rfl, -, hclosing⟩ := hvalue.brackets b hv
  cases gap with
  | nil =>
      obtain ⟨rfl, -⟩ := List.cons.inj htext
      exact hclosing
  | cons d gap =>
      obtain ⟨rfl, -⟩ := List.cons.inj htext
      exact absurd (hgap c List.mem_cons_self) (by rw [isGap_of_isOpening hc]; decide)

theorem isOpening_of_dropWhile {rest : Text}
    (h : (s.dropWhile fun c => !isOpening c) = c :: rest) : isOpening c = true := by
  have hhead := List.head?_dropWhile_not (fun c => !isOpening c) s
  rw [h] at hhead
  simpa using hhead

/-- What stands between brackets up to the end of a text goes to that end. -/
theorem bracketed?_suffix (hsuffix : s <:+ inner ++ [b]) (hpart : bracketed? s = some part)
    (hread : Datum.Json.read depth part = .ok v) (hv : closing? v = some b) :
    part <:+ inner ++ [b] := by
  unfold bracketed? at hpart
  split at hpart
  · exact absurd hpart nofun
  · rename_i c rest hopened
    have hrest : c :: rest <:+ inner ++ [b] := (hopened ▸ List.dropWhile_suffix _).trans hsuffix
    dsimp only at hpart
    split at hpart
    · exact absurd hpart nofun
    · rename_i hne
      obtain rfl := Option.some.inj hpart
      have hclosing : closingOf c = b := by
        obtain ⟨d, more, hmore⟩ := List.exists_cons_of_ne_nil
          (List.isEmpty_eq_false_iff.mp (Bool.eq_false_iff.mpr hne))
        have hprefix : uptoLast (closingOf c) (c :: rest) <+: c :: rest :=
          Text.reverse_dropWhile_isPrefix _ _
        rw [hmore] at hprefix hread
        obtain ⟨rfl, -⟩ := List.cons_prefix_cons.mp hprefix
        exact closingOf_of_read hread (isOpening_of_dropWhile hopened) hv
      rcases List.suffix_concat_iff.mp hrest with hnil | ⟨front, hfront, -⟩
      · exact absurd hnil (List.cons_ne_nil c rest)
      · rw [hclosing, hfront, uptoLast_append List.not_mem_nil, ← hfront]
        exact hrest

theorem json_ne_of_suffix (hinner : IsNested inner) (hv : closing? v = some b)
    (hsuffix : unfenced reply <:+ inner ++ [b]) : json depth reply ≠ .ok v := by
  intro h
  obtain ⟨part, rfl | hpart, hread⟩ := json_eq_ok h
  · exact read_ne_of_suffix hinner hv hsuffix hread
  · exact read_ne_of_suffix hinner hv (bracketed?_suffix hsuffix hpart hread hv) hread

theorem isBlank_of_gaps {behind : Text} (hbehind : ∀ c ∈ behind, isGap c = true)
    (hgap : ∀ c ∈ gap, c = .char ' ') : ∀ c ∈ behind ++ gap, Text.isBlank c = true := by
  intro c hc
  rcases List.mem_append.mp hc with hc | hc
  · exact isBlank_of_isGap (hbehind c hc)
  · obtain rfl := hgap c hc
    decide

theorem notMem_of_spaces (hgap : ∀ c ∈ gap, c = .char ' ') : .char '\n' ∉ gap :=
  fun hmem => absurd (hgap _ hmem) (by decide)

theorem ne_newline_of_isOpening (ho : isOpening o = true) :
    .char '\n' ≠ o ∧ .char '\n' ≠ closingOf o := by
  rcases opening_cases ho with rfl | rfl <;> decide

/-- A list or a map that begins behind the line of the opening fence is all that is left. -/
theorem unfenced_of_lines {lead behind : Text} (hline : .char '\n' ∉ line)
    (ho : isOpening o = true) (hnewline : .char '\n' ∈ lead) (hlead : ∀ c ∈ lead, isGap c = true)
    (hbehind : ∀ c ∈ behind, isGap c = true) (hgap : ∀ c ∈ gap, c = .char ' ') :
    unfenced (fenced line (lead ++ (enclosed o inner ++ behind)) gap) = enclosed o inner := by
  obtain ⟨pre, post, rfl, hpre⟩ := List.eq_append_cons_of_mem hnewline
  have hpost : ∀ c ∈ post, Text.isBlank c = true := fun c hc =>
    isBlank_of_isGap (hlead c (List.mem_append_right pre (List.mem_cons_of_mem _ hc)))
  have htrim : Text.trim (post ++ enclosed o inner ++ (behind ++ gap)) = enclosed o inner :=
    Text.trim_surrounded (List.all_eq_true.mpr hpost) (isTrimmed_enclosed ho inner)
      (List.all_eq_true.mpr (isBlank_of_gaps hbehind hgap))
  rw [List.append_assoc, List.cons_append, unfenced_lines hline hpre, ← List.append_assoc,
    List.append_assoc _ behind, htrim]

/-- Of a list or a map that begins in the line of the opening fence, at most what stands behind
its bracket is left. -/
theorem unfenced_suffix {lead behind : Text} (hline : .char '\n' ∉ line) (ho : isOpening o = true)
    (hlead : .char '\n' ∉ lead) (hbehind : ∀ c ∈ behind, isGap c = true)
    (hgap : ∀ c ∈ gap, c = .char ' ') :
    unfenced (fenced line (lead ++ (enclosed o inner ++ behind)) gap) <:+
      inner ++ [closingOf o] := by
  obtain ⟨hopening, hclosing⟩ := ne_newline_of_isOpening ho
  -- The first line ends between the brackets, behind them, or with the reply.
  by_cases hinner : .char '\n' ∈ inner
  · obtain ⟨pre, post, rfl, hpre⟩ := List.eq_append_cons_of_mem hinner
    have htext : lead ++ (enclosed o (pre ++ .char '\n' :: post) ++ behind) =
        (lead ++ o :: pre) ++ .char '\n' :: (post ++ ([closingOf o] ++ behind)) := by
      simp [enclosed]
    have hfront : .char '\n' ∉ lead ++ o :: pre := by
      simp [hlead, hopening, hpre]
    have hsolid : Text.IsTrimmed [closingOf o] :=
      Text.isTrimmed_of_solid (by simpa using (isBlank_of_isOpening ho).2)
    have hnone : Text.trimEnd (behind ++ gap) = [] :=
      Text.trimEnd_of_blank (isBlank_of_gaps hbehind hgap)
    rw [htext, unfenced_lines hline hfront, List.append_assoc, List.append_assoc,
      Text.trim_around hsolid (List.cons_ne_nil _ _), hnone, List.append_nil]
    obtain ⟨before, -, hpost⟩ := Text.exists_eq_append_trimStart post
    refine ⟨pre ++ .char '\n' :: before, ?_⟩
    conv_rhs => rw [hpost]
    simp
  · by_cases hmem : .char '\n' ∈ behind
    · obtain ⟨pre, post, rfl, hpre⟩ := List.eq_append_cons_of_mem hmem
      have htext : lead ++ (enclosed o inner ++ (pre ++ .char '\n' :: post)) =
          (lead ++ (enclosed o inner ++ pre)) ++ .char '\n' :: post := by
        simp
      have hfront : .char '\n' ∉ lead ++ (enclosed o inner ++ pre) := by
        simp [enclosed, hlead, hopening, hinner, hclosing, hpre]
      have hpost : ∀ c ∈ post, isGap c = true := fun c hc =>
        hbehind c (List.mem_append_right pre (List.mem_cons_of_mem _ hc))
      rw [htext, unfenced_lines hline hfront, Text.trim_of_blank (isBlank_of_gaps hpost hgap)]
      exact List.nil_suffix
    · have hnone : .char '\n' ∉ lead ++ (enclosed o inner ++ behind) := by
        simp [enclosed, hlead, hopening, hinner, hclosing, hmem]
      rw [unfenced_line hline hnone (notMem_of_spaces hgap)]
      exact List.nil_suffix

/-- A list or a map in a block of code is read if and only if it begins behind the line of the
opening fence. -/
theorem json_fenced_iff (hj : Datum.Json.read depth j = .ok v) (hv : closing? v = some b)
    (hline : .char '\n' ∉ line) (hgap : ∀ c ∈ gap, c = .char ' ') :
    (json depth (fenced line j gap) = .ok v ↔ .char '\n' ∈ j.takeWhile isGap) ∧
      (.char '\n' ∉ j → json depth (fenced line j gap) = .error (.noJson [])) := by
  obtain ⟨lead, core, behind, rfl, hlead, hbehind, hvalue⟩ := exists_valueText hj
  obtain ⟨o, inner, hbrackets, ho, rfl⟩ := hvalue.brackets b hv
  obtain rfl : core = enclosed o inner := hbrackets
  have hfirst : ∀ c ∈ (enclosed o inner ++ behind).head?, isGap c = false := by
    intro c hc
    obtain rfl := Option.some.inj hc
    exact isGap_of_isOpening ho
  rw [(takeWhile_append_of_head hlead hfirst).1]
  refine ⟨⟨fun h => ?_, fun h => ?_⟩, fun h => ?_⟩
  · by_contra hnone
    -- Both splits of the value's text name the same text between the brackets.
    obtain ⟨o', inner', htext, hnested⟩ := (hvalue.nested (by rw [hv]; nofun)).inner _ hv
    obtain ⟨-, htext⟩ := List.cons.inj htext
    obtain rfl := (List.append_inj' htext rfl).1
    exact json_ne_of_suffix hnested hv (unfenced_suffix hline ho hnone hbehind hgap) h
  · refine json_of_read ?_
    rw [unfenced_of_lines hline ho h hlead hbehind hgap]
    have hread := hvalue.read_append (by rw [hv]; nofun) []
    rwa [List.append_nil] at hread
  · have hunfenced := unfenced_line hline h (notMem_of_spaces hgap)
    refine json_eq_error_iff.mpr (.inr ?_)
    rw [hunfenced]
    exact ⟨rfl, rfl, nofun⟩

/-- Behind the line of the fence, a map over two lines. -/
theorem json_fencedLines :
    json maxDepth (fenced "json" "\n\x7b\"a\":\n[1]\x7d" " ") =
      .ok (.map [("a", .list [.int 1])]) := by
  have hread : Datum.Json.read maxDepth "\n\x7b\"a\":\n[1]\x7d" =
      .ok (.map [("a", .list [.int 1])]) := by
    cbv
  exact (json_fenced_iff hread rfl (by decide) (by decide)).1.mpr (by decide)

/-- In the line of the fence, the same map: its second line is read instead of it.  Of a map in
one line nothing is left. -/
theorem json_fenceLine_drops :
    (Datum.Json.read maxDepth "\x7b\"a\":\n[1]\x7d" = .ok (.map [("a", .list [.int 1])]) ∧
      json maxDepth (fenced "json" "\x7b\"a\":\n[1]\x7d" []) = .ok (.list [.int 1])) ∧
    Datum.Json.read maxDepth "\x7b\"a\":1\x7d" = .ok (.map [("a", .int 1)]) ∧
      json maxDepth (fenced "json" "\x7b\"a\":1\x7d" []) = .error (.noJson []) := by
  refine ⟨⟨?_, ?_⟩, ?_, ?_⟩ <;> cbv

end PageScript.Reply
