import PageScript.Proofs.JsonValues
/-!
The brackets of JSON.  A walk over a text tells whether it stands in a string and in how many
brackets.  Over the text of a value it ends as it began, and so it does over what stands between
the brackets of a value; therefore no value begins there that ends with the closing bracket.
-/

namespace PageScript.Datum.Json

open Reply (isOpening closingOf)

inductive Mode where
  | plain
  | quoted
  | escaped
  deriving DecidableEq, Repr

/-- Where a walk stands: outside of strings or inside of one, and in how many brackets. -/
structure Place where
  mode : Mode
  depth : Nat
  deriving DecidableEq, Repr

def isClosing (c : CodePoint) : Bool := c == ']' || c == '\x7d'

/-- Brackets count outside of strings only, and nothing is escaped there.  A bracket cannot be
escaped. -/
def Place.step (place : Place) (c : CodePoint) : Option Place :=
  match place with
  | ⟨.plain, n⟩ =>
      if c == '"' then some ⟨.quoted, n⟩
      else if c == '\\' then none
      else if isOpening c then some ⟨.plain, n + 1⟩
      else if isClosing c then if n = 0 then none else some ⟨.plain, n - 1⟩
      else some ⟨.plain, n⟩
  | ⟨.quoted, n⟩ =>
      if c == '"' then some ⟨.plain, n⟩
      else if c == '\\' then some ⟨.escaped, n⟩
      else some ⟨.quoted, n⟩
  | ⟨.escaped, n⟩ => if isOpening c then none else some ⟨.quoted, n⟩

def walk (place : Place) : Text → Option Place
  | [] => some place
  | c :: s => (place.step c).bind fun next => walk next s

/-- From everywhere outside of strings, the walk over the text ends where it began. -/
def IsNested (s : Text) : Prop := ∀ n, walk ⟨.plain, n⟩ s = some ⟨.plain, n⟩

/-- From inside of a string, the walk over the text ends outside. -/
def EndsString (s : Text) : Prop := ∀ n, walk ⟨.quoted, n⟩ s = some ⟨.plain, n⟩

variable {place : Place} {m m' : Mode} {n n' : Nat} {c o b : CodePoint}
variable {s t gap inner rest : Text}

theorem walk_append (place : Place) (s t : Text) :
    walk place (s ++ t) = (walk place s).bind fun next => walk next t := by
  induction s generalizing place with
  | nil => rfl
  | cons c s ih =>
      rw [List.cons_append, walk, walk]
      cases place.step c with
      | none => rfl
      | some next => exact ih next

theorem IsNested.nil : IsNested [] := fun _ => rfl

theorem IsNested.append (hs : IsNested s) (ht : IsNested t) : IsNested (s ++ t) := by
  intro n
  rw [walk_append, hs n]
  exact ht n

theorem IsNested.cons (hc : isMark c = false) (hs : IsNested s) : IsNested (c :: s) := by
  intro n
  simp only [isMark, Bool.or_eq_false_iff, beq_eq_false_iff_ne] at hc
  obtain ⟨⟨⟨⟨hopening, hlist⟩, hmap⟩, hquote⟩, hslash⟩ := hc
  have hstep : Place.step ⟨.plain, n⟩ c = some ⟨.plain, n⟩ := by
    simp [Place.step, isClosing, hopening, hlist, hmap, hquote, hslash]
  rw [walk, hstep]
  exact hs n

theorem isNested_of_unmarked (hs : ∀ c ∈ s, isMark c = false) : IsNested s := by
  induction s with
  | nil => exact .nil
  | cons c s ih =>
      rw [List.forall_mem_cons] at hs
      exact (ih hs.2).cons hs.1

theorem isNested_of_gap (hgap : ∀ c ∈ gap, isGap c = true) : IsNested gap := by
  refine isNested_of_unmarked fun c hc => ?_
  rcases gap_cases (hgap c hc) with ((rfl | rfl) | rfl) | rfl <;> decide

theorem EndsString.isNested (hs : EndsString s) : IsNested (.char '"' :: s) := hs

theorem Place.step_opening (ho : isOpening o = true) (n : Nat) :
    step ⟨.plain, n⟩ o = some ⟨.plain, n + 1⟩ := by
  rcases opening_cases ho with rfl | rfl <;> rfl

theorem Place.step_closing (hb : isClosing b = true) (n : Nat) :
    step ⟨.plain, n + 1⟩ b = some ⟨.plain, n⟩ := by
  simp only [isClosing, Bool.or_eq_true, beq_iff_eq] at hb
  rcases hb with rfl | rfl <;> rfl

theorem IsNested.walk_close (hs : IsNested s) (hb : isClosing b = true) (n : Nat) :
    walk ⟨.plain, n + 1⟩ (s ++ [b]) = some ⟨.plain, n⟩ := by
  rw [walk_append, hs, Option.bind_some, walk, Place.step_closing hb]
  rfl

theorem IsNested.enclosed (hs : IsNested s) (ho : isOpening o = true) (hb : isClosing b = true) :
    IsNested (o :: (s ++ [b])) := by
  intro n
  rw [walk, Place.step_opening ho]
  exact hs.walk_close hb n

theorem Place.step_succ (h : step ⟨m, n⟩ c = some ⟨m', n'⟩) :
    step ⟨m, n + 1⟩ c = some ⟨m', n' + 1⟩ := by
  cases m <;> grind [Place.step]

theorem walk_succ (h : walk ⟨m, n⟩ s = some ⟨m', n'⟩) :
    walk ⟨m, n + 1⟩ s = some ⟨m', n' + 1⟩ := by
  induction s generalizing m n with
  | nil =>
      obtain ⟨rfl, rfl⟩ := Place.mk.inj (Option.some.inj h)
      rfl
  | cons c s ih =>
      obtain ⟨next, hstep, hwalk⟩ := Option.bind_eq_some_iff.mp h
      rw [walk, Place.step_succ hstep]
      exact ih hwalk

/-- One stands in a string where the other does not. -/
def Opposite (m m' : Mode) : Prop := m = .plain ∧ m' = .quoted ∨ m = .quoted ∧ m' = .plain

theorem Opposite.step {other next next' : Place} (h : Opposite place.mode other.mode)
    (hnext : place.step c = some next) (hnext' : other.step c = some next') :
    Opposite next.mode next'.mode := by
  obtain ⟨m, n⟩ := place
  obtain ⟨m', n'⟩ := other
  rcases h with ⟨rfl, rfl⟩ | ⟨rfl, rfl⟩
  all_goals
    simp only [Place.step] at hnext hnext'
    grind [Opposite]

/-- What escapes nothing in one of two walks escapes nothing in the other: every quote turns
both around. -/
theorem Opposite.walk {other next next' : Place} (h : Opposite place.mode other.mode)
    (hnext : Json.walk place s = some next) (hnext' : Json.walk other s = some next') :
    Opposite next.mode next'.mode := by
  induction s generalizing place other with
  | nil =>
      obtain rfl := Option.some.inj hnext
      obtain rfl := Option.some.inj hnext'
      exact h
  | cons c s ih =>
      obtain ⟨middle, hstep, hwalk⟩ := Option.bind_eq_some_iff.mp hnext
      obtain ⟨middle', hstep', hwalk'⟩ := Option.bind_eq_some_iff.mp hnext'
      exact ih (h.step hstep hstep') hwalk hwalk'

/-- Behind the beginning of a nested text no nested text begins with a bracket and ends with the
closing bracket behind the whole. -/
theorem IsNested.not_of_suffix (hinner : IsNested inner) (hb : isClosing b = true)
    (ho : isOpening o = true) (hsuffix : o :: rest <:+ inner ++ [b]) : ¬ IsNested (o :: rest) := by
  intro hrest
  obtain ⟨front, hfront⟩ := hsuffix
  obtain ⟨behind, hbehind⟩ : front <+: inner := by
    rcases List.prefix_concat_iff.mp ⟨o :: rest, hfront⟩ with rfl | hprefix
    · exact absurd (List.append_right_eq_self.mp hfront) (List.cons_ne_nil o rest)
    · exact hprefix
  -- In front of the bracket the walk over all stands in a bracket more than it has to.
  obtain ⟨⟨m, n⟩, hwalk⟩ : ∃ place, walk ⟨.plain, 0⟩ front = some place := by
    have hall := hinner 0
    rw [← hbehind, walk_append] at hall
    obtain ⟨place, hplace, -⟩ := Option.bind_eq_some_iff.mp hall
    exact ⟨place, hplace⟩
  have hends : walk ⟨m, n + 1⟩ (o :: rest) = some ⟨.plain, 0⟩ := by
    have hall := hinner.walk_close hb 0
    rw [← hfront, walk_append, walk_succ hwalk] at hall
    exact hall
  cases m with
  | plain => exact absurd ((hrest (n + 1)).symm.trans hends) (by simp)
  | quoted =>
      have hmodes : Opposite .plain .plain :=
        Opposite.walk (.inl ⟨rfl, rfl⟩) (hrest 0) hends
      rcases hmodes with ⟨-, h⟩ | ⟨h, -⟩ <;> exact absurd h nofun
  | escaped =>
      rw [walk] at hends
      simp [Place.step, ho] at hends

theorem EndsString.cons (hc : c ≠ .char '"' ∧ c ≠ .char '\\') (hs : EndsString s) :
    EndsString (c :: s) := by
  intro n
  have hstep : Place.step ⟨.quoted, n⟩ c = some ⟨.quoted, n⟩ := by
    simp only [Place.step, beq_iff_eq, if_neg hc.1, if_neg hc.2]
  rw [walk, hstep]
  exact hs n

theorem EndsString.escape (hc : isOpening c = false) (hs : EndsString s) :
    EndsString (.char '\\' :: c :: s) := by
  intro n
  have hstep : Place.step ⟨.escaped, n⟩ c = some ⟨.quoted, n⟩ := by
    simp only [Place.step, hc, Bool.false_eq_true, if_false]
  change (Place.step ⟨.escaped, n⟩ c).bind (walk · s) = _
  rw [hstep]
  exact hs n

theorem unmarked_of_hexValue? {value : Nat} (h : Text.hexValue? c = some value) :
    c ≠ .char '"' ∧ c ≠ .char '\\' := by
  constructor <;> rintro rfl <;> exact absurd h nofun

theorem isOpening_of_unescapeLetter? {found : CodePoint} (h : unescapeLetter? c = some found) :
    isOpening c = false := by
  rw [Bool.eq_false_iff]
  intro hopening
  rcases opening_cases hopening with rfl | rfl <;> exact absurd h nofun

theorem pieces_endsString {found : List Piece} (h : pieces s = some (found, rest)) :
    ∃ used, s = used ++ rest ∧ EndsString used := by
  fun_induction pieces s generalizing found with
  | case1 s =>
      obtain ⟨-, rfl⟩ := Prod.mk.inj (Option.some.inj h)
      exact ⟨[.char '"'], rfl, fun n => rfl⟩
  | case2 a b c d s value hvalue ih =>
      obtain ⟨⟨more, rest⟩, hmore, hfound⟩ := Option.map_eq_some_iff.mp h
      obtain ⟨-, rfl⟩ := Prod.mk.inj hfound
      obtain ⟨used, rfl, hused⟩ := ih hmore
      simp only [Text.ofHex?, List.foldl_cons, List.foldl_nil, Option.bind_eq_some_iff,
        Option.map_eq_some_iff] at hvalue
      obtain ⟨_, ⟨_, ⟨_, ⟨_, -, _, ha, -⟩, _, hb, -⟩, _, hc, -⟩, _, hd, -⟩ := hvalue
      refine ⟨.char '\\' :: .char 'u' :: a :: b :: c :: d :: used, rfl, .escape (by decide) ?_⟩
      exact .cons (unmarked_of_hexValue? ha) (.cons (unmarked_of_hexValue? hb)
        (.cons (unmarked_of_hexValue? hc) (.cons (unmarked_of_hexValue? hd) hused)))
  | case4 c s _ _ hletter ih =>
      obtain ⟨⟨more, rest⟩, hmore, hfound⟩ := Option.map_eq_some_iff.mp h
      obtain ⟨-, rfl⟩ := Prod.mk.inj hfound
      obtain ⟨used, rfl, hused⟩ := ih hmore
      exact ⟨.char '\\' :: c :: used, rfl, .escape (isOpening_of_unescapeLetter? hletter) hused⟩
  | case7 c s hquote _ _ hplain ih =>
      obtain ⟨⟨more, rest⟩, hmore, hfound⟩ := Option.map_eq_some_iff.mp h
      obtain ⟨-, rfl⟩ := Prod.mk.inj hfound
      obtain ⟨used, rfl, hused⟩ := ih hmore
      refine ⟨c :: used, rfl, .cons ⟨hquote, ?_⟩ hused⟩
      rintro rfl
      exact hplain rfl
  | case3 | case5 | case6 | case8 => cases h

theorem string_nested {found : Text} (h : string s = .ok (found, rest)) :
    ∃ used, s = used ++ rest ∧ EndsString used := by
  unfold string at h
  split at h
  · rename_i parts behind hparts
    obtain ⟨-, rfl⟩ := Prod.mk.inj (Except.ok.inj h)
    exact pieces_endsString hparts
  · exact absurd h nofun

/-- The text of a value is nested, and so is what stands between its brackets. -/
structure NestedText (v : Datum) (used : Text) : Prop where
  whole : IsNested used
  inner : ∀ b, closing? v = some b → ∃ o inner, used = o :: (inner ++ [b]) ∧ IsNested inner

/-- All that the reader takes with this fuel in front of a closing bracket is nested. -/
def NestsBody {α : Type} (closing : CodePoint)
    (reader : Nat → Text → Except ReadError (α × Text)) (fuel : Nat) : Prop :=
  ∀ s found rest, reader fuel s = .ok (found, rest) →
    ∃ inner, s = inner ++ closing :: rest ∧ IsNested inner

def NestsValue (fuel : Nat) : Prop :=
  ∀ depth s v rest, value fuel depth s = .ok (v, rest) →
    ∃ used, s = used ++ rest ∧ NestedText v used

theorem NestedText.of_brackets {v : Datum} (hinner : IsNested inner) (ho : isOpening o = true)
    (hb : isClosing b = true) (hv : closing? v = some b) :
    NestedText v (o :: (inner ++ [b])) where
  whole := hinner.enclosed ho hb
  inner d hd := by
    obtain rfl := Option.some.inj (hv.symm.trans hd)
    exact ⟨o, inner, rfl, hinner⟩

theorem NestedText.of_string {found : Text} (h : string s = .ok (found, rest)) :
    ∃ used, .char '"' :: s = used ++ rest ∧ NestedText (.text found) used := by
  obtain ⟨used, rfl, hused⟩ := string_nested h
  exact ⟨.char '"' :: used, rfl, hused.isNested, nofun⟩

theorem NestedText.of_scalar {v : Datum} (h : scalar s = .ok (v, rest)) :
    ∃ used, s = used ++ rest ∧ NestedText v used := by
  obtain ⟨hclosing, c, more, rfl, -, hunmarked, -⟩ := scalar_append h
  refine ⟨c :: more, rfl, isNested_of_unmarked hunmarked, fun b hb => ?_⟩
  cases hclosing.symm.trans hb

variable {fuel depth : Nat}

theorem nestsValue_succ
    (hitems : ∀ depth, NestsBody ']' (fun fuel => items fuel depth) fuel)
    (hentries : ∀ depth before, NestsBody '\x7d' (fun fuel => entries fuel depth before) fuel) :
    NestsValue (fuel + 1) := by
  intro depth s v rest h
  rcases value_cases h with ⟨behind, found, rfl, hfound, rfl⟩ | ⟨less, behind, rfl, rfl, hlist⟩ |
    ⟨less, behind, rfl, rfl, hmap⟩ | hscalar
  · exact NestedText.of_string hfound
  · rcases hlist with ⟨gap, hgap, rfl, rfl⟩ | ⟨found, hfound, rfl⟩
    · exact ⟨_, by simp, .of_brackets (o := '[') (isNested_of_gap hgap) rfl rfl rfl⟩
    · obtain ⟨inner, hinner, hnested⟩ := hitems _ _ _ _ hfound
      obtain ⟨gap, hgap, htext⟩ := exists_gap_append '[' hinner
      exact ⟨_, htext, .of_brackets ((isNested_of_gap hgap).append hnested) rfl rfl rfl⟩
  · rcases hmap with ⟨gap, hgap, rfl, rfl⟩ | ⟨found, hfound, rfl⟩
    · exact ⟨_, by simp, .of_brackets (o := '\x7b') (isNested_of_gap hgap) rfl rfl rfl⟩
    · obtain ⟨inner, hinner, hnested⟩ := hentries _ _ _ _ _ hfound
      obtain ⟨gap, hgap, htext⟩ := exists_gap_append '\x7b' hinner
      exact ⟨_, htext, .of_brackets ((isNested_of_gap hgap).append hnested) rfl rfl rfl⟩
  · exact NestedText.of_scalar hscalar

/-- What stands in front of a mark, blanks before it included, is nested with what stands behind
the mark. -/
theorem IsNested.mark (hs : IsNested s) (hgap : ∀ c ∈ gap, isGap c = true) (hc : isMark c = false)
    (ht : IsNested t) : IsNested (s ++ (gap ++ c :: t)) :=
  hs.append ((isNested_of_gap hgap).append (ht.cons hc))

theorem nestsItems_succ (hvalue : NestsValue fuel)
    (hitems : NestsBody ']' (fun fuel => items fuel depth) fuel) :
    NestsBody ']' (fun fuel => items fuel depth) (fuel + 1) := by
  intro s found rest h
  obtain ⟨item, behind, gap, hitem, hgap, hbehind⟩ := items_cases h
  obtain ⟨used, rfl, hused⟩ := hvalue depth _ _ _ hitem
  rcases hbehind with ⟨rfl, -⟩ | ⟨after, more, rfl, hmore, -⟩
  · exact ⟨used ++ gap, by simp, hused.whole.append (isNested_of_gap hgap)⟩
  · obtain ⟨inner, hinner, hnested⟩ := hitems _ _ _ hmore
    obtain ⟨gap', hgap', hafter⟩ := exists_eq_append_skipGap after
    refine ⟨_, ?_, hused.whole.mark hgap (c := ',') rfl ((isNested_of_gap hgap').append hnested)⟩
    rw [hafter, hinner]
    simp

theorem nestsEntries_succ (hvalue : NestsValue fuel)
    (hentries : ∀ before, NestsBody '\x7d' (fun fuel => entries fuel depth before) fuel)
    (before : List (Text × Datum)) :
    NestsBody '\x7d' (fun fuel => entries fuel depth before) (fuel + 1) := by
  intro s found rest h
  obtain ⟨name, key, colon, gap, after, item, behind, gap', rfl, hkey, hgap, rfl, hitem, hgap',
    hbehind⟩ := entries_cases h
  obtain ⟨name, rfl, hname⟩ := string_nested hkey
  obtain ⟨used, htaken, hused⟩ := hvalue depth _ _ _ hitem
  obtain ⟨lead, hlead, hafter⟩ := exists_eq_append_skipGap after
  have hcontent : IsNested (lead ++ used) := (isNested_of_gap hlead).append hused.whole
  rw [hafter, htaken]
  rcases hbehind with ⟨rfl, -⟩ | ⟨next, rfl, hmore⟩
  · refine ⟨_, ?_, hname.isNested.mark hgap (c := ':') rfl
      (hcontent.append (isNested_of_gap hgap'))⟩
    simp
  · obtain ⟨inner, hinner, hnested⟩ := hentries _ _ _ _ hmore
    obtain ⟨last, hlast, hnext⟩ := exists_eq_append_skipGap next
    refine ⟨_, ?_, hname.isNested.mark hgap (c := ':') rfl
      (hcontent.mark hgap' (c := ',') rfl ((isNested_of_gap hlast).append hnested))⟩
    rw [hnext, hinner]
    simp

theorem nests_all (fuel : Nat) :
    NestsValue fuel ∧ (∀ depth, NestsBody ']' (fun fuel => items fuel depth) fuel) ∧
      ∀ depth before, NestsBody '\x7d' (fun fuel => entries fuel depth before) fuel := by
  -- As with `takes_all`, the readers call each other with less fuel.
  induction fuel with
  | zero => exact ⟨nofun, nofun, nofun⟩
  | succ fuel ih =>
      obtain ⟨hvalue, hitems, hentries⟩ := ih
      exact ⟨nestsValue_succ hitems hentries, fun depth => nestsItems_succ hvalue (hitems depth),
        fun depth => nestsEntries_succ hvalue (hentries depth)⟩

theorem ValueText.nested {v : Datum} {used : Text} (h : ValueText depth v used)
    (hv : closing? v ≠ none) : NestedText v used := by
  have hread := h.reads used.length [] (Nat.le_refl _) fun hnone => absurd hnone hv
  obtain ⟨used', heq, hnested⟩ := (nests_all _).1 _ _ _ _ hread
  rw [List.append_nil, List.append_nil] at heq
  exact heq ▸ hnested

end PageScript.Datum.Json
