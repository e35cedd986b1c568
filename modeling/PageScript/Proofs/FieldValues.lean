import Mathlib.Data.List.Forall2
import PageScript.Proofs.RecordFields
import PageScript.Scenario.Record

namespace PageScript

namespace Record

variable {α : Type} {read : Reader α} {IsValue : Datum → α → Prop} {entries : Entries} {key : Key}

/-- What stands for a text: the text, or the bytes that encode it. -/
inductive IsText : Datum → Text → Prop where
  | text (s : Text) : IsText (.text s) s
  | bytes {encoded : List UInt8} {s : Text} (h : Text.ofUtf8? encoded = some s) :
      IsText (.bytes encoded) s

/-- What stands for one of some values that are known by their labels. -/
def IsLabel (label : α → Text) (data : Datum) (a : α) : Prop := data = .text (label a)

inductive IsNullable (IsValue : Datum → α → Prop) : Datum → Option α → Prop where
  | null : IsNullable IsValue .null none
  | value {data : Datum} {a : α} (h : IsValue data a) : IsNullable IsValue data (some a)

inductive IsList (IsItem : Datum → α → Prop) : Datum → List α → Prop where
  | list {items : List Datum} {values : List α} (h : List.Forall₂ IsItem items values) :
      IsList IsItem (.list items) values

inductive IsRecord (IsTold : Entries → α → Prop) : Datum → α → Prop where
  | map {entries : Entries} {a : α} (h : IsTold entries a) : IsRecord IsTold (.map entries) a

/-- A value stands under a key. -/
def Entries.Gives (entries : Entries) (key : Text) (IsValue : Datum → α → Prop) (a : α) : Prop :=
  ∃ data, entries.lookup key = some data ∧ IsValue data a

/-- A value stands under a key, or nothing stands there and the value is the default. -/
def Entries.GivesOr (entries : Entries) (key : Text) (IsValue : Datum → α → Prop)
    (default a : α) : Prop :=
  entries.Gives key IsValue a ∨ entries.lookup key = none ∧ default = a

/-- The reader finds exactly the values that its data stands for. -/
def Finds (read : Reader α) (IsValue : Datum → α → Prop) : Prop :=
  ∀ data a, read data = .valid a ↔ IsValue data a

theorem finds_text : Finds Reader.text IsText := by
  intro data s
  constructor
  · intro h
    unfold Reader.text at h
    split at h
    · exact Checked.valid.inj h ▸ .text _
    · split at h
      · rename_i encoded found hfound
        exact Checked.valid.inj h ▸ .bytes hfound
      · exact absurd h nofun
    · exact absurd h nofun
  · rintro (_ | hencoded)
    · rfl
    · simp only [Reader.text, hencoded]

theorem not_isText_null (s : Text) : ¬ IsText .null s := nofun

theorem Finds.nullable (h : Finds read IsValue) (hnull : ∀ a, ¬ IsValue .null a) :
    Finds (Reader.nullable read) (IsNullable IsValue) := by
  intro data a?
  constructor
  · intro hread
    unfold Reader.nullable at hread
    split at hread
    · exact Checked.valid.inj hread ▸ .null
    · cases hdata : read data with
      | valid a =>
          rw [hdata] at hread
          exact Checked.valid.inj hread ▸ .value ((h data a).mp hdata)
      | invalid issues =>
          rw [hdata] at hread
          exact absurd hread nofun
  · rintro (_ | ⟨hvalue⟩)
    · rfl
    · rename_i a
      have hread : read data = .valid a := (h data a).mpr hvalue
      unfold Reader.nullable
      split
      · exact absurd hvalue (hnull a)
      · rw [hread]
        rfl

theorem Finds.itemsFrom (h : Finds read IsValue) {i : Nat} {items : List Datum}
    {values : List α} :
    Reader.itemsFrom read i items = .valid values ↔ List.Forall₂ IsValue items values := by
  induction items generalizing i values with
  | nil =>
      rw [List.forall₂_nil_left_iff]
      exact ⟨fun hread => (Checked.valid.inj hread).symm, fun hnil => hnil ▸ rfl⟩
  | cons item items ih =>
      rw [Reader.itemsFrom, List.forall₂_cons_left_iff]
      simp only [Checked.seq_eq_valid_iff, Checked.makes_map]
      constructor
      · rintro ⟨value, hvalue, more, hmore, rfl⟩
        rw [Checked.within_eq_valid_iff] at hvalue
        exact ⟨value, more, (h item value).mp hvalue, ih.mp hmore, rfl⟩
      · rintro ⟨value, more, hvalue, hmore, rfl⟩
        exact ⟨value, Checked.within_eq_valid_iff.mpr ((h item value).mpr hvalue), more,
          ih.mpr hmore, rfl⟩

theorem Finds.list (h : Finds read IsValue) : Finds (Reader.list read) (IsList IsValue) := by
  intro data values
  constructor
  · intro hread
    cases data with
    | list items => exact .list (h.itemsFrom.mp hread)
    | _ => exact absurd hread nofun
  · rintro ⟨hitems⟩
    exact h.itemsFrom.mpr hitems

theorem lookup_labels {label : α → Text} {values : List α} {s : Text} {a : α}
    (h : (values.map fun a => (label a, a)).lookup s = some a) : s = label a := by
  obtain ⟨before, after, hsplit, -⟩ := List.lookup_eq_some_iff.mp h
  have hmem : (s, a) ∈ values.map fun a => (label a, a) := by
    rw [hsplit]
    exact List.mem_append_right before List.mem_cons_self
  obtain ⟨_, -, heq⟩ := List.mem_map.mp hmem
  obtain ⟨rfl, rfl⟩ := Prod.mk.inj heq
  rfl

theorem finds_word {cause : List Text → Cause} {label : α → Text} {values : List α}
    (h : ∀ a, (values.map fun a => (label a, a)).lookup (label a) = some a ∧
      Text.unencodable? (label a) = none) :
    Finds (Reader.word cause (values.map fun a => (label a, a))) (IsLabel label) := by
  intro data a
  constructor
  · intro hread
    unfold Reader.word at hread
    split at hread
    · rename_i s
      unfold Reader.characters at hread
      split at hread
      · exact absurd hread nofun
      · dsimp only [Checked.andThen] at hread
        split at hread
        · rename_i found hfound
          obtain rfl := Checked.valid.inj hread
          exact congrArg Datum.text (lookup_labels hfound)
        · exact absurd hread nofun
    · exact absurd hread nofun
  · rintro rfl
    exact Reader.word_of_lookup (h a).1 (h a).2

theorem Entries.find?_of_label_eq (hkey : key.label = key.name) :
    entries.find? key = (entries.lookup key.name).map fun data => (key.name, data) := by
  unfold Entries.find?
  rw [hkey]
  cases entries.lookup key.name <;> rfl

theorem Finds.required (h : Finds read IsValue) (hkey : key.label = key.name) {a : α} :
    Record.required key read entries = .valid a ↔ entries.Gives key.name IsValue a := by
  unfold Record.required Entries.Gives
  rw [Entries.find?_of_label_eq hkey]
  cases entries.lookup key.name with
  | none => simp [Checked.refuse, Checked.within]
  | some data => simp [Checked.within_eq_valid_iff, h data a]

theorem Finds.optional (h : Finds read IsValue) (hkey : key.label = key.name) {default a : α} :
    Record.optional key default read entries = .valid a ↔
      entries.GivesOr key.name IsValue default a := by
  unfold Record.optional Entries.GivesOr Entries.Gives
  rw [Entries.find?_of_label_eq hkey]
  cases entries.lookup key.name with
  | none => simp
  | some data => simp [Checked.within_eq_valid_iff, h data a]

theorem finds_record {title : Text} {body : Entries → Checked α} {IsTold : Entries → α → Prop}
    (h : ∀ entries a, body entries = .valid a ↔ IsTold entries a) :
    Finds (Reader.record title body) (IsRecord IsTold) := by
  intro data a
  constructor
  · intro hread
    obtain ⟨entries, rfl⟩ := Reader.exists_entries hread
    exact .map ((h entries a).mp hread)
  · rintro ⟨htold⟩
    exact (h _ a).mpr htold

end Record

open Record

theorem Action.finds : Finds Action.read (IsLabel Action.label) :=
  finds_word fun action => by cases action <;> decide

namespace Step

/-- What stands for a target: a text that is not blank. -/
def IsTarget (data : Datum) (target : Text) : Prop :=
  IsText data target ∧ Text.isBlankText target = false

theorem finds_target : Finds readTarget IsTarget := by
  intro data target
  unfold readTarget IsTarget
  rw [← finds_text data target]
  split
  · rename_i s hread
    rw [hread, Checked.valid.injEq]
    split
    · rename_i hblank
      refine ⟨nofun, ?_⟩
      rintro ⟨rfl, hsolid⟩
      exact absurd hblank (by simp [hsolid])
    · rename_i hsolid
      rw [Checked.valid.injEq]
      exact ⟨fun heq => ⟨heq, heq ▸ Bool.eq_false_iff.mpr hsolid⟩, And.left⟩
  · rename_i issues hread
    rw [hread]
    exact ⟨nofun, fun h => absurd h.1 nofun⟩

/-- A step as the entries of an item tell it. -/
structure IsTold (entries : Entries) (step : Step) : Prop where
  action : entries.Gives "action" (IsLabel Action.label) step.action
  target : entries.Gives "target" IsTarget step.target
  data : entries.GivesOr "data" (IsNullable IsText) none step.data?
  description : entries.GivesOr "description" IsText "" step.description

theorem finds : Finds read (IsRecord IsTold) := by
  refine finds_record fun entries step => ?_
  have haction : required actionKey Action.read entries = .valid step.action ↔
      entries.Gives "action" (IsLabel Action.label) step.action :=
    Action.finds.required rfl
  have htarget : required targetKey readTarget entries = .valid step.target ↔
      entries.Gives "target" IsTarget step.target :=
    finds_target.required rfl
  have hdata : optional dataKey none (Reader.nullable Reader.text) entries = .valid step.data? ↔
      entries.GivesOr "data" (IsNullable IsText) none step.data? :=
    (finds_text.nullable not_isText_null).optional rfl
  have hdescription : optional descriptionKey ("" : Text) Reader.text entries =
      .valid step.description ↔ entries.GivesOr "description" IsText "" step.description :=
    finds_text.optional rfl
  cases step
  simp only [Checked.seq_eq_valid_iff, Checked.makes_seq, Checked.makes_map, Step.mk.injEq,
    Checked.makes_and_left, Checked.makes_eq, Checked.makes_eq_and]
  constructor
  · rintro ⟨h1, h2, h3, h4⟩
    exact ⟨haction.mp h1, htarget.mp h2, hdata.mp h3, hdescription.mp h4⟩
  · rintro ⟨h1, h2, h3, h4⟩
    exact ⟨haction.mpr h1, htarget.mpr h2, hdata.mpr h3, hdescription.mpr h4⟩

end Step

namespace Draft

/-- A draft as the entries of an item tell it. -/
structure IsTold (entries : Entries) (draft : Draft) : Prop where
  name : entries.Gives "name" IsText draft.name
  description : entries.GivesOr "description" (IsNullable IsText) none draft.description?
  tags : entries.GivesOr "tags" (IsList IsText) [] draft.tags
  steps : entries.Gives "steps" (IsList (IsRecord Step.IsTold)) draft.steps

theorem finds : Finds read (IsRecord IsTold) := by
  refine finds_record fun entries draft => ?_
  have hname : required nameKey Reader.text entries = .valid draft.name ↔
      entries.Gives "name" IsText draft.name :=
    finds_text.required rfl
  have hdescription : optional descriptionKey none (Reader.nullable Reader.text) entries =
      .valid draft.description? ↔
        entries.GivesOr "description" (IsNullable IsText) none draft.description? :=
    (finds_text.nullable not_isText_null).optional rfl
  have htags : optional tagsKey [] (Reader.list Reader.text) entries = .valid draft.tags ↔
      entries.GivesOr "tags" (IsList IsText) [] draft.tags :=
    finds_text.list.optional rfl
  have hsteps : required stepsKey (Reader.list Step.read) entries = .valid draft.steps ↔
      entries.Gives "steps" (IsList (IsRecord Step.IsTold)) draft.steps :=
    Step.finds.list.required rfl
  cases draft
  simp only [Checked.seq_eq_valid_iff, Checked.makes_seq, Checked.makes_map, Draft.mk.injEq,
    Checked.makes_and_left, Checked.makes_eq, Checked.makes_eq_and]
  constructor
  · rintro ⟨h1, h2, h3, h4⟩
    exact ⟨hname.mp h1, hdescription.mp h2, htags.mp h3, hsteps.mp h4⟩
  · rintro ⟨h1, h2, h3, h4⟩
    exact ⟨hname.mpr h1, hdescription.mpr h2, htags.mpr h3, hsteps.mpr h4⟩

end Draft

end PageScript
