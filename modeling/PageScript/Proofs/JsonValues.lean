import PageScript.Proofs.JsonTokens

namespace PageScript.Datum.Json

open Reply (isOpening closingOf)

variable {fuel depth : Nat} {s tail rest gap behind used inner : Text} {c : CodePoint} {v : Datum}

theorem skipGap_append (hgap : ∀ c ∈ gap, isGap c = true) (s : Text) :
    skipGap (gap ++ s) = skipGap s :=
  List.dropWhile_append_of_pos hgap

theorem skipGap_cons (hc : isGap c = false) (s : Text) : skipGap (c :: s) = c :: s :=
  List.dropWhile_cons_of_neg (by simp [hc])

theorem skipGap_append_cons (hgap : ∀ c ∈ gap, isGap c = true) (hc : isGap c = false) (s : Text) :
    skipGap (gap ++ c :: s) = c :: s := by
  rw [skipGap_append hgap, skipGap_cons hc]

theorem exists_eq_append_skipGap (s : Text) :
    ∃ gap, (∀ c ∈ gap, isGap c = true) ∧ s = gap ++ skipGap s :=
  ⟨s.takeWhile isGap, fun _ hc => List.mem_takeWhile_imp hc, List.takeWhile_append_dropWhile.symm⟩

theorem isGap_of_isOpening (hc : isOpening c = true) : isGap c = false := by
  rcases opening_cases hc with rfl | rfl <;> decide

theorem endsNumber_append (hgap : ∀ c ∈ gap, isGap c = true) (htail : EndsNumber tail) :
    EndsNumber (gap ++ tail) := by
  cases gap with
  | nil => exact htail
  | cons g gap =>
      intro c hc
      obtain rfl := Option.some.inj hc
      have hg : isGap g = true := hgap g List.mem_cons_self
      rcases gap_cases hg with ((rfl | rfl) | rfl) | rfl
      all_goals decide

theorem value_of_scalar (hopening : isOpening c = false) (hquote : c ≠ .char '"') (s : Text) :
    value (fuel + 1) depth (c :: s) = scalar (c :: s) := by
  rw [value]
  · exact fun _ h => hquote (List.cons.inj h).1
  · rintro _ h
    obtain ⟨rfl, -⟩ := List.cons.inj h
    exact absurd hopening (by decide)
  · rintro _ h
    obtain ⟨rfl, -⟩ := List.cons.inj h
    exact absurd hopening (by decide)

/-- The text of a value, as it is read where `depth` more lists and maps may stand in each
other. -/
structure ValueText (depth : Nat) (v : Datum) (used : Text) : Prop where
  first : ∃ c more, used = c :: more ∧ isGap c = false ∧ c ≠ .char ']' ∧ c ≠ .char '\x7d'
  brackets : ∀ b, closing? v = some b →
    ∃ c inner, used = c :: (inner ++ [b]) ∧ isOpening c = true ∧ closingOf c = b
  reads : ∀ fuel tail, used.length ≤ fuel → (closing? v = none → EndsNumber tail) →
    value fuel depth (used ++ tail) = .ok (v, tail)

/-- A text that a reader takes up to the closing bracket behind it, and that does not begin
with that bracket. -/
structure BodyText {α : Type} (closing : CodePoint)
    (reader : Nat → Text → Except ReadError (α × Text)) (found : α) (inner : Text) : Prop where
  first : ∀ tail, ∃ c more, inner ++ closing :: tail = c :: more ∧ isGap c = false ∧ c ≠ closing
  reads : ∀ fuel tail, inner.length < fuel →
    reader fuel (inner ++ closing :: tail) = .ok (found, tail)

theorem ValueText.of_scalar (h : scalar s = .ok (v, rest)) :
    ∃ used, s = used ++ rest ∧ ValueText depth v used := by
  obtain ⟨hclosing, c, more, rfl, hc, hplain, hread⟩ := scalar_append h
  simp only [isPlain, Bool.and_eq_true, Bool.not_eq_true', bne_iff_ne] at hc
  obtain ⟨⟨⟨⟨hgap, hopening⟩, hquote⟩, hlist⟩, hmap⟩ := hc
  refine ⟨c :: more, rfl, ⟨c, more, rfl, hgap, hlist, hmap⟩, ?_, ?_⟩
  · intro b hb
    cases hclosing.symm.trans hb
  · intro fuel tail hfuel htail
    obtain ⟨fuel, rfl⟩ := Nat.exists_eq_succ_of_ne_zero (Nat.ne_of_gt (Nat.zero_lt_of_lt hfuel))
    rw [List.cons_append, value_of_scalar hopening hquote]
    exact hread tail (htail hclosing)

theorem ValueText.of_string {found : Text} (h : string s = .ok (found, rest)) :
    ∃ used, .char '"' :: s = used ++ rest ∧ ValueText depth (.text found) used := by
  obtain ⟨more, rfl, hread⟩ := string_append h
  refine ⟨.char '"' :: more, rfl, ⟨_, more, rfl, by decide, by decide, by decide⟩, nofun, ?_⟩
  intro fuel tail hfuel _
  obtain ⟨fuel, rfl⟩ := Nat.exists_eq_succ_of_ne_zero (Nat.ne_of_gt (Nat.zero_lt_of_lt hfuel))
  rw [List.cons_append, value, hread]
  rfl

theorem ValueText.of_brackets {b : CodePoint} (hc : isOpening c = true)
    (hb : closingOf c = b) (hv : closing? v = some b)
    (hread : ∀ fuel tail, inner.length < fuel →
      value (fuel + 1) depth (c :: (inner ++ b :: tail)) = .ok (v, tail)) :
    ValueText depth v (c :: (inner ++ [b])) where
  first := by
    refine ⟨c, _, rfl, ?_⟩
    rcases opening_cases hc with rfl | rfl <;> decide
  brackets d hd := by
    obtain rfl := Option.some.inj (hv.symm.trans hd)
    exact ⟨c, inner, rfl, hc, hb⟩
  reads fuel tail hfuel _ := by
    simp only [List.length_cons, List.length_append, List.length_nil] at hfuel
    obtain ⟨fuel, rfl⟩ : ∃ less, fuel = less + 1 := ⟨fuel - 1, by omega⟩
    simpa using hread fuel tail (by omega)

theorem value_list {found : List Datum} (hgap : ∀ c ∈ gap, isGap c = true)
    (hs : ∃ c more, s = c :: more ∧ isGap c = false ∧ c ≠ .char ']')
    (h : items fuel depth s = .ok (found, rest)) :
    value (fuel + 1) (depth + 1) (.char '[' :: (gap ++ s)) = .ok (.list found, rest) := by
  obtain ⟨c, more, rfl, hc, hclosing⟩ := hs
  rw [value, skipGap_append_cons hgap hc]
  split
  · rename_i heq
    exact absurd (List.cons.inj heq).1 hclosing
  · rw [h]
    rfl

theorem value_map {found : List (Text × Datum)} (hgap : ∀ c ∈ gap, isGap c = true)
    (hs : ∃ c more, s = c :: more ∧ isGap c = false ∧ c ≠ .char '\x7d')
    (h : entries fuel depth [] s = .ok (found, rest)) :
    value (fuel + 1) (depth + 1) (.char '\x7b' :: (gap ++ s)) = .ok (.map found, rest) := by
  obtain ⟨c, more, rfl, hc, hclosing⟩ := hs
  rw [value, skipGap_append_cons hgap hc]
  split
  · rename_i heq
    exact absurd (List.cons.inj heq).1 hclosing
  · rw [h]
    rfl

theorem ValueText.noItems (hgap : ∀ c ∈ gap, isGap c = true) :
    ValueText (depth + 1) (.list []) (.char '[' :: (gap ++ [.char ']'])) := by
  refine .of_brackets rfl rfl rfl fun fuel tail _ => ?_
  rw [value, skipGap_append_cons hgap (by decide)]
  rfl

theorem ValueText.noEntries (hgap : ∀ c ∈ gap, isGap c = true) :
    ValueText (depth + 1) (.map []) (.char '\x7b' :: (gap ++ [.char '\x7d'])) := by
  refine .of_brackets rfl rfl rfl fun fuel tail _ => ?_
  rw [value, skipGap_append_cons hgap (by decide)]
  rfl

/-- What is read up to a closing bracket makes a value behind the opening one. -/
theorem BodyText.valueText {α : Type} {reader : Nat → Text → Except ReadError (α × Text)}
    {found : α} (h : BodyText (closingOf c) reader found inner) (hc : isOpening c = true)
    (hv : closing? v = some (closingOf c))
    (hread : ∀ fuel s rest, (∃ d more, s = d :: more ∧ isGap d = false ∧ d ≠ closingOf c) →
      reader fuel s = .ok (found, rest) →
        value (fuel + 1) depth (c :: (gap ++ s)) = .ok (v, rest)) :
    ValueText depth v (c :: (gap ++ inner ++ [closingOf c])) := by
  refine .of_brackets hc rfl hv fun fuel tail hfuel => ?_
  rw [List.length_append] at hfuel
  rw [List.append_assoc]
  exact hread fuel _ tail (h.first tail) (h.reads fuel tail (by omega))

theorem BodyText.list {found : List Datum}
    (h : BodyText ']' (fun fuel => items fuel depth) found inner)
    (hgap : ∀ c ∈ gap, isGap c = true) :
    ValueText (depth + 1) (.list found) (.char '[' :: (gap ++ inner ++ [.char ']'])) :=
  h.valueText (c := '[') rfl rfl fun _ _ _ => value_list hgap

theorem BodyText.map {found : List (Text × Datum)}
    (h : BodyText '\x7d' (fun fuel => entries fuel depth []) found inner)
    (hgap : ∀ c ∈ gap, isGap c = true) :
    ValueText (depth + 1) (.map found) (.char '\x7b' :: (gap ++ inner ++ [.char '\x7d'])) :=
  h.valueText (c := '\x7b') rfl rfl fun _ _ _ => value_map hgap

theorem ValueText.body_first (h : ValueText depth v used) (tail : Text) :
    ∃ c more, used ++ tail = c :: more ∧ isGap c = false ∧ c ≠ .char ']' := by
  obtain ⟨c, more, rfl, hc, hlist, -⟩ := h.first
  exact ⟨c, more ++ tail, rfl, hc, hlist⟩

theorem ValueText.reads_gap (h : ValueText depth v used) (hgap : ∀ c ∈ gap, isGap c = true)
    (hc : c.isDigit = false ∧ c ≠ .char '.' ∧ c ≠ .char 'e' ∧ c ≠ .char 'E')
    (hfuel : used.length ≤ fuel) (tail : Text) :
    value fuel depth (used ++ (gap ++ c :: tail)) = .ok (v, gap ++ c :: tail) := by
  refine h.reads fuel _ hfuel fun _ => endsNumber_append hgap ?_
  intro d hd
  obtain rfl := Option.some.inj hd
  exact hc

theorem items_last {item : Datum} (h : value fuel depth s = .ok (item, rest))
    (hrest : skipGap rest = .char ']' :: tail) : items (fuel + 1) depth s = .ok ([item], tail) := by
  rw [items, h]
  dsimp only [Bind.bind, Except.bind]
  rw [hrest]
  rfl

theorem items_next {item : Datum} {more : List Datum} (h : value fuel depth s = .ok (item, rest))
    (hrest : skipGap rest = .char ',' :: tail)
    (hmore : items fuel depth (skipGap tail) = .ok (more, behind)) :
    items (fuel + 1) depth s = .ok (item :: more, behind) := by
  rw [items, h]
  dsimp only [Bind.bind, Except.bind]
  rw [hrest]
  simp only [hmore]
  rfl

section

variable {before : List (Text × Datum)} {key colon : Text} {item : Datum}

theorem entries_last (hkey : string s = .ok (key, colon))
    (hcolon : skipGap colon = .char ':' :: gap)
    (h : value fuel depth (skipGap gap) = .ok (item, rest))
    (hrest : skipGap rest = .char '\x7d' :: tail) :
    entries (fuel + 1) depth before (.char '"' :: s) = .ok (put key item before, tail) := by
  rw [entries, hkey]
  dsimp only [Bind.bind, Except.bind]
  rw [hcolon]
  simp only [h, hrest]
  rfl

theorem entries_next (hkey : string s = .ok (key, colon))
    (hcolon : skipGap colon = .char ':' :: gap)
    (h : value fuel depth (skipGap gap) = .ok (item, rest))
    (hrest : skipGap rest = .char ',' :: tail) :
    entries (fuel + 1) depth before (.char '"' :: s) =
      entries fuel depth (put key item before) (skipGap tail) := by
  rw [entries, hkey]
  dsimp only [Bind.bind, Except.bind]
  rw [hcolon]
  simp only [h, hrest]

end

theorem ValueText.lastItem {item : Datum} (h : ValueText depth item used)
    (hgap : ∀ c ∈ gap, isGap c = true) :
    BodyText ']' (fun fuel => items fuel depth) [item] (used ++ gap) where
  first tail := by
    rw [List.append_assoc]
    exact h.body_first _
  reads fuel tail hfuel := by
    obtain ⟨fuel, rfl⟩ := Nat.exists_eq_succ_of_ne_zero (Nat.ne_of_gt (Nat.zero_lt_of_lt hfuel))
    rw [List.length_append] at hfuel
    rw [List.append_assoc]
    exact items_last (h.reads_gap hgap (by decide) (by omega) tail)
      (skipGap_append_cons hgap (by decide) tail)

theorem BodyText.item {item : Datum} {more : List Datum}
    (h : BodyText ']' (fun fuel => items fuel depth) more inner)
    (hitem : ValueText depth item used) (hgap : ∀ c ∈ gap, isGap c = true)
    (hbehind : ∀ c ∈ behind, isGap c = true) :
    BodyText ']' (fun fuel => items fuel depth) (item :: more)
      (used ++ (gap ++ .char ',' :: (behind ++ inner))) where
  first tail := by
    rw [List.append_assoc]
    exact hitem.body_first _
  reads fuel tail hfuel := by
    obtain ⟨fuel, rfl⟩ := Nat.exists_eq_succ_of_ne_zero (Nat.ne_of_gt (Nat.zero_lt_of_lt hfuel))
    simp only [List.length_append, List.length_cons] at hfuel
    simp only [List.append_assoc, List.cons_append]
    refine items_next (hitem.reads_gap hgap (by decide) (by omega) _)
      (skipGap_append_cons hgap (by decide) _) ?_
    obtain ⟨c, _, hfirst, hc, -⟩ := h.first tail
    rw [hfirst, skipGap_append_cons hbehind hc, ← hfirst]
    exact h.reads fuel tail (by omega)

/-- The text of an entry of a map, from the quote before its key to the mark behind its value. -/
structure EntryText (depth : Nat) (key : Text) (item : Datum) (used : Text) : Prop where
  first : ∃ more, used = .char '"' :: more
  last : ∀ fuel before tail, used.length ≤ fuel →
    entries (fuel + 1) depth before (used ++ .char '\x7d' :: tail) =
      .ok (put key item before, tail)
  next : ∀ fuel before tail, used.length ≤ fuel →
    entries (fuel + 1) depth before (used ++ .char ',' :: tail) =
      entries fuel depth (put key item before) (skipGap tail)

theorem EntryText.of_value {key name after : Text} {item : Datum}
    (hname : ∀ tail, string (name ++ tail) = .ok (key, tail)) (hitem : ValueText depth item used)
    (hgap : ∀ c ∈ gap, isGap c = true) (hbehind : ∀ c ∈ behind, isGap c = true)
    (hafter : ∀ c ∈ after, isGap c = true) :
    EntryText depth key item
      (.char '"' :: (name ++ (gap ++ .char ':' :: (behind ++ (used ++ after))))) := by
  have hskip : ∀ tail, skipGap (behind ++ (used ++ tail)) = used ++ tail := by
    intro tail
    obtain ⟨c, more, rfl, hc, -⟩ := hitem.first
    exact skipGap_append_cons hbehind hc (more ++ tail)
  refine ⟨⟨_, rfl⟩, fun fuel before tail hfuel => ?_, fun fuel before tail hfuel => ?_⟩
  all_goals
    simp only [List.length_append, List.length_cons] at hfuel
    simp only [List.append_assoc, List.cons_append]
  · refine entries_last (hname _) (skipGap_append_cons hgap (by decide) _) ?_
      (skipGap_append_cons hafter (by decide) tail)
    rw [hskip]
    exact hitem.reads_gap hafter (by decide) (by omega) tail
  · refine entries_next (hname _) (skipGap_append_cons hgap (by decide) _) ?_
      (skipGap_append_cons hafter (by decide) tail)
    rw [hskip]
    exact hitem.reads_gap hafter (by decide) (by omega) tail

theorem EntryText.body_first {key : Text} {item : Datum} (h : EntryText depth key item used)
    (tail : Text) : ∃ c more, used ++ tail = c :: more ∧ isGap c = false ∧ c ≠ .char '\x7d' := by
  obtain ⟨more, rfl⟩ := h.first
  exact ⟨_, more ++ tail, rfl, by decide, by decide⟩

theorem EntryText.lastEntry {key : Text} {item : Datum} (h : EntryText depth key item used)
    (before : List (Text × Datum)) :
    BodyText '\x7d' (fun fuel => entries fuel depth before) (put key item before) used where
  first tail := h.body_first _
  reads fuel tail hfuel := by
    obtain ⟨fuel, rfl⟩ := Nat.exists_eq_succ_of_ne_zero (Nat.ne_of_gt (Nat.zero_lt_of_lt hfuel))
    exact h.last fuel before tail (Nat.le_of_lt_succ hfuel)

theorem BodyText.entry {key : Text} {item : Datum} {before found : List (Text × Datum)}
    (h : BodyText '\x7d' (fun fuel => entries fuel depth (put key item before)) found inner)
    (hentry : EntryText depth key item used) (hgap : ∀ c ∈ gap, isGap c = true) :
    BodyText '\x7d' (fun fuel => entries fuel depth before) found
      (used ++ .char ',' :: (gap ++ inner)) where
  first tail := by
    rw [List.append_assoc]
    exact hentry.body_first _
  reads fuel tail hfuel := by
    obtain ⟨fuel, rfl⟩ := Nat.exists_eq_succ_of_ne_zero (Nat.ne_of_gt (Nat.zero_lt_of_lt hfuel))
    simp only [List.length_append, List.length_cons] at hfuel
    simp only [List.append_assoc, List.cons_append]
    rw [hentry.next fuel before _ (by omega)]
    obtain ⟨c, _, hfirst, hc, -⟩ := h.first tail
    rw [hfirst, skipGap_append_cons hgap hc, ← hfirst]
    exact h.reads fuel tail (by omega)

/-- All that the reader takes with this fuel is the text of what it reads. -/
def TakesBody {α : Type} (closing : CodePoint) (reader : Nat → Text → Except ReadError (α × Text))
    (fuel : Nat) : Prop :=
  ∀ s found rest, reader fuel s = .ok (found, rest) →
    ∃ inner, s = inner ++ closing :: rest ∧ BodyText closing reader found inner

def TakesValue (fuel : Nat) : Prop :=
  ∀ depth s v rest, value fuel depth s = .ok (v, rest) →
    ∃ used, s = used ++ rest ∧ ValueText depth v used

theorem exists_gap_cons (h : skipGap s = c :: tail) :
    ∃ gap, (∀ d ∈ gap, isGap d = true) ∧ s = gap ++ c :: tail := by
  obtain ⟨gap, hgap, hs⟩ := exists_eq_append_skipGap s
  exact ⟨gap, hgap, h ▸ hs⟩

theorem exists_gap_append (o : CodePoint) (h : skipGap s = inner ++ c :: rest) :
    ∃ gap, (∀ d ∈ gap, isGap d = true) ∧ o :: s = o :: (gap ++ inner ++ [c]) ++ rest := by
  obtain ⟨gap, hgap, hs⟩ := exists_eq_append_skipGap s
  refine ⟨gap, hgap, ?_⟩
  rw [hs, h]
  simp

/-- A value is a string, a list or a map, with or without something in it, or a scalar. -/
theorem value_cases (h : value (fuel + 1) depth s = .ok (v, rest)) :
    (∃ behind found, s = .char '"' :: behind ∧ string behind = .ok (found, rest) ∧
      v = .text found) ∨
    (∃ less behind, depth = less + 1 ∧ s = .char '[' :: behind ∧
      ((∃ gap, (∀ d ∈ gap, isGap d = true) ∧ behind = gap ++ .char ']' :: rest ∧ v = .list []) ∨
        ∃ found, items fuel less (skipGap behind) = .ok (found, rest) ∧ v = .list found)) ∨
    (∃ less behind, depth = less + 1 ∧ s = .char '\x7b' :: behind ∧
      ((∃ gap, (∀ d ∈ gap, isGap d = true) ∧ behind = gap ++ .char '\x7d' :: rest ∧
          v = .map []) ∨
        ∃ found, entries fuel less [] (skipGap behind) = .ok (found, rest) ∧ v = .map found)) ∨
    scalar s = .ok (v, rest) := by
  rw [value.eq_def] at h
  dsimp only at h
  split at h
  · obtain ⟨⟨found, behind⟩, hfound, hend⟩ := bind_eq_ok h
    obtain ⟨rfl, rfl⟩ := Prod.mk.inj (Except.ok.inj hend)
    exact .inl ⟨_, found, rfl, hfound, rfl⟩
  · split at h
    · cases h
    · refine .inr (.inl ⟨_, _, rfl, rfl, ?_⟩)
      split at h
      · rename_i hrest
        obtain ⟨rfl, rfl⟩ := Prod.mk.inj (Except.ok.inj h)
        obtain ⟨gap, hgap, hbehind⟩ := exists_gap_cons hrest
        exact .inl ⟨gap, hgap, hbehind, rfl⟩
      · obtain ⟨⟨found, behind⟩, hfound, hend⟩ := bind_eq_ok h
        obtain ⟨rfl, rfl⟩ := Prod.mk.inj (Except.ok.inj hend)
        exact .inr ⟨found, hfound, rfl⟩
  · split at h
    · cases h
    · refine .inr (.inr (.inl ⟨_, _, rfl, rfl, ?_⟩))
      split at h
      · rename_i hrest
        obtain ⟨rfl, rfl⟩ := Prod.mk.inj (Except.ok.inj h)
        obtain ⟨gap, hgap, hbehind⟩ := exists_gap_cons hrest
        exact .inl ⟨gap, hgap, hbehind, rfl⟩
      · obtain ⟨⟨found, behind⟩, hfound, hend⟩ := bind_eq_ok h
        obtain ⟨rfl, rfl⟩ := Prod.mk.inj (Except.ok.inj hend)
        exact .inr ⟨found, hfound, rfl⟩
  · exact .inr (.inr (.inr h))

/-- Behind an item stands the closing bracket, or a comma and more items. -/
theorem items_cases {found : List Datum} (h : items (fuel + 1) depth s = .ok (found, rest)) :
    ∃ item behind gap, value fuel depth s = .ok (item, behind) ∧ (∀ d ∈ gap, isGap d = true) ∧
      (behind = gap ++ .char ']' :: rest ∧ found = [item] ∨
        ∃ after more, behind = gap ++ .char ',' :: after ∧
          items fuel depth (skipGap after) = .ok (more, rest) ∧ found = item :: more) := by
  rw [items] at h
  obtain ⟨⟨item, behind⟩, hitem, h⟩ := bind_eq_ok h
  dsimp only at h
  split at h
  · rename_i hbehind
    obtain ⟨rfl, rfl⟩ := Prod.mk.inj (Except.ok.inj h)
    obtain ⟨gap, hgap, hsplit⟩ := exists_gap_cons hbehind
    exact ⟨item, behind, gap, hitem, hgap, .inl ⟨hsplit, rfl⟩⟩
  · rename_i after hbehind
    obtain ⟨⟨more, ended⟩, hmore, hend⟩ := bind_eq_ok h
    obtain ⟨rfl, rfl⟩ := Prod.mk.inj (Except.ok.inj hend)
    obtain ⟨gap, hgap, hsplit⟩ := exists_gap_cons hbehind
    exact ⟨item, behind, gap, hitem, hgap, .inr ⟨after, more, hsplit, hmore, rfl⟩⟩
  · cases h

/-- An entry is a key, a colon and a value; behind it stands the closing bracket, or a comma and
more entries. -/
theorem entries_cases {before found : List (Text × Datum)}
    (h : entries (fuel + 1) depth before s = .ok (found, rest)) :
    ∃ name key colon gap after item behind gap', s = .char '"' :: name ∧
      string name = .ok (key, colon) ∧ (∀ d ∈ gap, isGap d = true) ∧
      colon = gap ++ .char ':' :: after ∧ value fuel depth (skipGap after) = .ok (item, behind) ∧
      (∀ d ∈ gap', isGap d = true) ∧
      (behind = gap' ++ .char '\x7d' :: rest ∧ found = put key item before ∨
        ∃ next, behind = gap' ++ .char ',' :: next ∧
          entries fuel depth (put key item before) (skipGap next) = .ok (found, rest)) := by
  rw [entries.eq_def] at h
  dsimp only at h
  split at h
  · rename_i name
    obtain ⟨⟨key, colon⟩, hkey, h⟩ := bind_eq_ok h
    dsimp only at h
    split at h
    · rename_i after hcolon
      obtain ⟨gap, hgap, hsplit⟩ := exists_gap_cons hcolon
      obtain ⟨⟨item, behind⟩, hitem, h⟩ := bind_eq_ok h
      dsimp only at h
      split at h
      · rename_i hend
        obtain ⟨rfl, rfl⟩ := Prod.mk.inj (Except.ok.inj h)
        obtain ⟨gap', hgap', hbehind⟩ := exists_gap_cons hend
        exact ⟨name, key, colon, gap, after, item, behind, gap', rfl, hkey, hgap, hsplit, hitem,
          hgap', .inl ⟨hbehind, rfl⟩⟩
      · rename_i next hend
        obtain ⟨gap', hgap', hbehind⟩ := exists_gap_cons hend
        exact ⟨name, key, colon, gap, after, item, behind, gap', rfl, hkey, hgap, hsplit, hitem,
          hgap', .inr ⟨next, hbehind, h⟩⟩
      · cases h
    · cases h
  · cases h

theorem takesValue_succ
    (hitems : ∀ depth, TakesBody ']' (fun fuel => items fuel depth) fuel)
    (hentries : ∀ depth before, TakesBody '\x7d' (fun fuel => entries fuel depth before) fuel) :
    TakesValue (fuel + 1) := by
  intro depth s v rest h
  rcases value_cases h with ⟨behind, found, rfl, hfound, rfl⟩ | ⟨less, behind, rfl, rfl, hlist⟩ |
    ⟨less, behind, rfl, rfl, hmap⟩ | hscalar
  · exact ValueText.of_string hfound
  · rcases hlist with ⟨gap, hgap, rfl, rfl⟩ | ⟨found, hfound, rfl⟩
    · exact ⟨_, by simp, ValueText.noItems hgap⟩
    · obtain ⟨inner, hinner, hbody⟩ := hitems _ _ _ _ hfound
      obtain ⟨gap, hgap, htext⟩ := exists_gap_append '[' hinner
      exact ⟨_, htext, hbody.list hgap⟩
  · rcases hmap with ⟨gap, hgap, rfl, rfl⟩ | ⟨found, hfound, rfl⟩
    · exact ⟨_, by simp, ValueText.noEntries hgap⟩
    · obtain ⟨inner, hinner, hbody⟩ := hentries _ _ _ _ _ hfound
      obtain ⟨gap, hgap, htext⟩ := exists_gap_append '\x7b' hinner
      exact ⟨_, htext, hbody.map hgap⟩
  · exact ValueText.of_scalar hscalar

theorem takesItems_succ (hvalue : TakesValue fuel)
    (hitems : TakesBody ']' (fun fuel => items fuel depth) fuel) :
    TakesBody ']' (fun fuel => items fuel depth) (fuel + 1) := by
  intro s found rest h
  obtain ⟨item, behind, gap, hitem, hgap, hbehind⟩ := items_cases h
  obtain ⟨used, rfl, hused⟩ := hvalue depth _ _ _ hitem
  rcases hbehind with ⟨rfl, rfl⟩ | ⟨after, more, rfl, hmore, rfl⟩
  · exact ⟨used ++ gap, by simp, hused.lastItem hgap⟩
  · obtain ⟨inner, hinner, hbody⟩ := hitems _ _ _ hmore
    obtain ⟨gap', hgap', hafter⟩ := exists_eq_append_skipGap after
    refine ⟨_, ?_, hbody.item hused hgap hgap'⟩
    rw [hafter, hinner]
    simp

theorem takesEntries_succ (hvalue : TakesValue fuel)
    (hentries : ∀ before, TakesBody '\x7d' (fun fuel => entries fuel depth before) fuel)
    (before : List (Text × Datum)) :
    TakesBody '\x7d' (fun fuel => entries fuel depth before) (fuel + 1) := by
  intro s found rest h
  obtain ⟨name, key, colon, gap, after, item, behind, gap', rfl, hkey, hgap, rfl, hitem, hgap',
    hbehind⟩ := entries_cases h
  obtain ⟨name, rfl, hname⟩ := string_append hkey
  obtain ⟨used, htaken, hused⟩ := hvalue depth _ _ _ hitem
  obtain ⟨lead, hlead, hafter⟩ := exists_eq_append_skipGap after
  have hentry := EntryText.of_value hname hused hgap hlead hgap'
  rw [hafter, htaken]
  rcases hbehind with ⟨rfl, rfl⟩ | ⟨next, rfl, hmore⟩
  · exact ⟨_, by simp, hentry.lastEntry before⟩
  · obtain ⟨inner, hinner, hbody⟩ := hentries _ _ _ _ hmore
    obtain ⟨last, hlast, hnext⟩ := exists_eq_append_skipGap next
    refine ⟨_, ?_, hbody.entry hentry hlast⟩
    rw [hnext, hinner]
    simp

/-- Whatever a reader takes, it takes in the same way wherever it stands. -/
theorem takes_all (fuel : Nat) :
    TakesValue fuel ∧ (∀ depth, TakesBody ']' (fun fuel => items fuel depth) fuel) ∧
      ∀ depth before, TakesBody '\x7d' (fun fuel => entries fuel depth before) fuel := by
  -- The readers call each other with less fuel, hence all of them at once.
  induction fuel with
  | zero => exact ⟨nofun, nofun, nofun⟩
  | succ fuel ih =>
      obtain ⟨hvalue, hitems, hentries⟩ := ih
      exact ⟨takesValue_succ hitems hentries, fun depth => takesItems_succ hvalue (hitems depth),
        fun depth => takesEntries_succ hvalue (hentries depth)⟩

/-- What is read is the text of one value between blanks. -/
theorem exists_valueText (h : read depth s = .ok v) :
    ∃ gap used behind, s = gap ++ (used ++ behind) ∧ (∀ c ∈ gap, isGap c = true) ∧
      (∀ c ∈ behind, isGap c = true) ∧ ValueText depth v used := by
  obtain ⟨⟨data, behind⟩, hread, h⟩ := bind_eq_ok h
  dsimp only at h
  split at h
  · rename_i hempty
    obtain rfl := Except.ok.inj h
    obtain ⟨used, hs, hused⟩ := (takes_all _).1 _ _ _ _ hread
    obtain ⟨gap, hgap, hsplit⟩ := exists_eq_append_skipGap s
    refine ⟨gap, used, behind, by rw [← hs, ← hsplit], hgap, ?_, hused⟩
    exact List.dropWhile_eq_nil_iff.mp (List.isEmpty_iff.mp hempty)
  · exact absurd h nofun

/-- A list or a map is read to its end, whatever stands behind it. -/
theorem ValueText.read_append (h : ValueText depth v used) (hv : closing? v ≠ none)
    (behind : Text) :
    read depth (used ++ behind) = if (skipGap behind).isEmpty then .ok v else .error .malformed := by
  have hskip : skipGap (used ++ behind) = used ++ behind := by
    obtain ⟨c, more, rfl, hc, -⟩ := h.first
    exact skipGap_cons hc (more ++ behind)
  have hfuel : used.length ≤ 2 * (used ++ behind).length + 2 := by
    rw [List.length_append]
    omega
  rw [read, hskip, h.reads _ behind hfuel fun hnone => absurd hnone hv]
  rfl

/-- A text that begins with a word in front of a bracket is not JSON. -/
theorem read_plain {o : CodePoint} (hgap : isGap c = false) (hopening : isOpening c = false)
    (hquote : c ≠ .char '"') (ho : o ∈ s) (hopened : isOpening o = true)
    (hrun : ∀ run, run <+: c :: s ∨ .char '-' :: run <+: c :: s →
      (∀ d ∈ run, d.isDigit = true) → run.length ≤ Text.maxDigits) :
    read depth (c :: s) = .error .malformed := by
  rw [read, skipGap_cons hgap, value_of_scalar hopening hquote]
  cases hscalar : scalar (c :: s) with
  | error error =>
      rcases scalar_error hscalar with rfl | ⟨run, hprefix, hdigits, hlong⟩
      · rfl
      · exact absurd (hrun run hprefix hdigits) (Nat.not_le_of_lt hlong)
  | ok found =>
      obtain ⟨data, rest⟩ := found
      obtain ⟨-, d, used, hs, -, hplain, -⟩ := scalar_append hscalar
      -- The bracket is not in the word that was read, so it is left behind it.
      have hrest : o ∈ rest := by
        have hmem : o ∈ d :: used ++ rest := hs ▸ List.mem_cons_of_mem c ho
        rcases List.mem_append.mp hmem with hused | hrest
        · exact absurd (isOpening_of_isMark (hplain o hused)) (by rw [hopened]; decide)
        · exact hrest
      have hleft : (skipGap rest).isEmpty = false := by
        rw [List.isEmpty_eq_false_iff]
        intro hnil
        have hgap := List.dropWhile_eq_nil_iff.mp hnil o hrest
        rw [isGap_of_isOpening hopened] at hgap
        exact absurd hgap nofun
      change (if (skipGap rest).isEmpty then _ else _) = _
      rw [hleft]
      rfl

end PageScript.Datum.Json
