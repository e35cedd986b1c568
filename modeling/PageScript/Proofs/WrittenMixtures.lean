import Mathlib.Data.List.Pairwise
import PageScript.Record.Checked
import PageScript.Record.Dump

namespace PageScript.Record

mutual

/-- Data that is written for a dump: each field of each record under its name, or under its
label, or under its label with anything at all under its name. -/
inductive Dump.IsMixture : Dump → Datum → Prop
  | null : IsMixture .null .null
  | bool (b : Bool) : IsMixture (.bool b) (.bool b)
  | int (n : Int) : IsMixture (.int n) (.int n)
  | text (s : Text) : IsMixture (.text s) (.text s)
  | list {items : List Dump} {found : List Datum} (h : AreMixtures items found) :
      IsMixture (.list items) (.list found)
  | record {fields : List (Key × Dump)} {entries : Entries} (h : FieldsMixed fields entries) :
      IsMixture (.record fields) (.map entries)

inductive Dump.AreMixtures : List Dump → List Datum → Prop
  | nil : AreMixtures [] []
  | cons {item : Dump} {data : Datum} {items : List Dump} {found : List Datum}
      (hitem : IsMixture item data) (hrest : AreMixtures items found) :
      AreMixtures (item :: items) (data :: found)

inductive Dump.FieldsMixed : List (Key × Dump) → Entries → Prop
  | nil : FieldsMixed [] []
  | named {key : Key} {value : Dump} {data : Datum} {fields : List (Key × Dump)}
      {entries : Entries} (hvalue : IsMixture value data) (hrest : FieldsMixed fields entries) :
      FieldsMixed ((key, value) :: fields) ((key.name, data) :: entries)
  | labelled {key : Key} {value : Dump} {data : Datum} {fields : List (Key × Dump)}
      {entries : Entries} (hvalue : IsMixture value data) (hrest : FieldsMixed fields entries) :
      FieldsMixed ((key, value) :: fields) ((key.label, data) :: entries)
  | doubled {key : Key} {value : Dump} {data : Datum} {fields : List (Key × Dump)}
      {entries : Entries} (hkey : key.name ≠ key.label) (ignored : Datum)
      (hvalue : IsMixture value data) (hrest : FieldsMixed fields entries) :
      FieldsMixed ((key, value) :: fields) ((key.name, ignored) :: (key.label, data) :: entries)

end

namespace Key

/-- Nothing that the one key is called is what the other is called. -/
def IsApart (key other : Key) : Prop :=
  key.name ≠ other.name ∧ key.name ≠ other.label ∧ key.label ≠ other.name ∧
    key.label ≠ other.label

instance (key other : Key) : Decidable (key.IsApart other) :=
  inferInstanceAs (Decidable (_ ∧ _))

instance : Std.Symm IsApart where
  symm _ _ h := ⟨h.1.symm, h.2.2.1.symm, h.2.1.symm, h.2.2.2.symm⟩

end Key

theorem Entries.find?_cons_of_ne {key : Key} {used : Text} (data : Datum) (entries : Entries)
    (hname : key.name ≠ used) (hlabel : key.label ≠ used) :
    Entries.find? ((used, data) :: entries) key = entries.find? key := by
  simp only [Entries.find?, List.lookup_cons, beq_false_of_ne hname, beq_false_of_ne hlabel]

theorem Entries.find?_of_label {entries : Entries} {key : Key} {data : Datum}
    (h : entries.lookup key.label = some data) : entries.find? key = some (key.label, data) := by
  simp only [Entries.find?, h]

theorem Entries.find?_of_name {entries : Entries} {key : Key} {data : Datum}
    (hlabel : entries.lookup key.label = none) (hname : entries.lookup key.name = some data) :
    entries.find? key = some (key.name, data) := by
  simp only [Entries.find?, hlabel, hname, Option.map_some]

namespace Dump

theorem FieldsMixed.lookup_eq_none {fields : List (Key × Dump)} {entries : Entries}
    (h : FieldsMixed fields entries) {s : Text}
    (hs : ∀ field ∈ fields, s ≠ field.1.name ∧ s ≠ field.1.label) : entries.lookup s = none := by
  induction fields generalizing entries with
  | nil =>
      cases h
      rfl
  | cons field fields ih =>
      obtain ⟨hname, hlabel⟩ := hs field List.mem_cons_self
      have hfields : ∀ field ∈ fields, s ≠ field.1.name ∧ s ≠ field.1.label :=
        fun field hfield => hs field (List.mem_cons_of_mem _ hfield)
      cases h with
      | named hvalue hrest =>
          simpa only [List.lookup_cons, beq_false_of_ne hname] using ih hrest hfields
      | labelled hvalue hrest =>
          simpa only [List.lookup_cons, beq_false_of_ne hlabel] using ih hrest hfields
      | doubled hkey ignored hvalue hrest =>
          simpa only [List.lookup_cons, beq_false_of_ne hname, beq_false_of_ne hlabel] using
            ih hrest hfields

/-- Each field is found in a mixture if no two fields are called alike. -/
theorem FieldsMixed.find?_eq {fields : List (Key × Dump)} {entries : Entries}
    (h : FieldsMixed fields entries) (hapart : (fields.map Prod.fst).Pairwise Key.IsApart)
    {key : Key} {value : Dump} (hmem : (key, value) ∈ fields) :
    ∃ used data, entries.find? key = some (used, data) ∧ value.IsMixture data := by
  induction fields generalizing entries with
  | nil => exact absurd hmem List.not_mem_nil
  | cons field fields ih =>
      rw [List.map_cons, List.pairwise_cons] at hapart
      obtain ⟨hfirst, hapart⟩ := hapart
      rcases List.mem_cons.mp hmem with rfl | hrestMem
      · -- no later field takes the label away from the field that is looked for
        have hlabel : ∀ field ∈ fields, key.label ≠ field.1.name ∧ key.label ≠ field.1.label :=
          fun field hfield => (hfirst _ (List.mem_map_of_mem hfield)).2.2
        cases h with
        | @named _ _ data _ entries hvalue hrest =>
            by_cases hkey : key.label = key.name
            · exact ⟨_, data, Entries.find?_of_label (by rw [hkey, List.lookup_cons_self]), hvalue⟩
            · refine ⟨_, data, Entries.find?_of_name ?_ List.lookup_cons_self, hvalue⟩
              rw [List.lookup_cons, beq_false_of_ne hkey]
              exact hrest.lookup_eq_none hlabel
        | labelled hvalue hrest =>
            exact ⟨_, _, Entries.find?_of_label List.lookup_cons_self, hvalue⟩
        | doubled hkey ignored hvalue hrest =>
            refine ⟨_, _, Entries.find?_of_label ?_, hvalue⟩
            rw [List.lookup_cons, beq_false_of_ne hkey.symm]
            exact List.lookup_cons_self
      · obtain ⟨hname, hnameLabel, hlabelName, hlabel⟩ :=
          Std.Symm.symm _ _ (hfirst _ (List.mem_map_of_mem hrestMem))
        cases h with
        | named hvalue hrest =>
            rw [Entries.find?_cons_of_ne _ _ hname hlabelName]
            exact ih hrest hapart hrestMem
        | labelled hvalue hrest =>
            rw [Entries.find?_cons_of_ne _ _ hnameLabel hlabel]
            exact ih hrest hapart hrestMem
        | doubled hkey ignored hvalue hrest =>
            rw [Entries.find?_cons_of_ne _ _ hname hlabelName,
              Entries.find?_cons_of_ne _ _ hnameLabel hlabel]
            exact ih hrest hapart hrestMem

/-- How every key is spelled throughout a dump: by its name or by its label. -/
def IsSpelling (keyOf : Key → Text) : Prop := ∀ key, keyOf key = key.name ∨ keyOf key = key.label

mutual

theorem isMixture_toDatum {keyOf : Key → Text} (hkeyOf : IsSpelling keyOf) :
    ∀ dump : Dump, dump.IsMixture (dump.toDatum keyOf)
  | .null => .null
  | .bool b => .bool b
  | .int n => .int n
  | .text s => .text s
  | .list items => .list (areMixtures_toData hkeyOf items)
  | .record fields => .record (fieldsMixed_toEntries hkeyOf fields)

theorem areMixtures_toData {keyOf : Key → Text} (hkeyOf : IsSpelling keyOf) :
    ∀ items : List Dump, AreMixtures items (toData keyOf items)
  | [] => .nil
  | item :: rest => .cons (isMixture_toDatum hkeyOf item) (areMixtures_toData hkeyOf rest)

theorem fieldsMixed_toEntries {keyOf : Key → Text} (hkeyOf : IsSpelling keyOf) :
    ∀ fields : List (Key × Dump), FieldsMixed fields (toEntries keyOf fields)
  | [] => .nil
  | (key, value) :: rest => by
      have hvalue := isMixture_toDatum hkeyOf value
      have hrest := fieldsMixed_toEntries hkeyOf rest
      rw [toEntries]
      rcases hkeyOf key with hname | hlabel
      · rw [hname]
        exact .named hvalue hrest
      · rw [hlabel]
        exact .labelled hvalue hrest

end

end Dump

end PageScript.Record
