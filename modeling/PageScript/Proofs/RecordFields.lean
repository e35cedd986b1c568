import PageScript.Proofs.WrittenMixtures

namespace PageScript.Record

namespace Checked

variable {α β : Type}

/-- Something is read, and it is as `p` says. -/
def Makes (x : Checked α) (p : α → Prop) : Prop := ∃ a, x = .valid a ∧ p a

@[simp] theorem seq_eq_valid_iff {f : Checked (α → β)} {x : Checked α} {b : β} :
    f <*> x = .valid b ↔ f.Makes fun g => x.Makes fun a => g a = b := by
  cases f <;> cases x <;> simp [Seq.seq, seq, Makes]

@[simp] theorem makes_seq {f : Checked (α → β)} {x : Checked α} {p : β → Prop} :
    (f <*> x).Makes p ↔ f.Makes fun g => x.Makes fun a => p (g a) := by
  cases f <;> cases x <;> simp [Seq.seq, seq, Makes]

@[simp] theorem makes_map {f : α → β} {x : Checked α} {p : β → Prop} :
    (f <$> x).Makes p ↔ x.Makes fun a => p (f a) := by
  cases x <;> simp [Functor.map, map, Makes]

@[simp] theorem map_eq_valid_iff {f : α → β} {x : Checked α} {b : β} :
    f <$> x = .valid b ↔ x.Makes fun a => f a = b := by
  cases x <;> simp [Functor.map, map, Makes]

@[simp] theorem makes_false {x : Checked α} : (x.Makes fun _ => False) ↔ False := by
  simp [Makes]

@[simp] theorem makes_and_left {x : Checked α} {p : Prop} {q : α → Prop} :
    (x.Makes fun a => p ∧ q a) ↔ p ∧ x.Makes q := by
  simp only [Makes, and_left_comm, exists_and_left]

@[simp] theorem makes_eq {x : Checked α} {a : α} : (x.Makes fun b => b = a) ↔ x = .valid a := by
  simp [Makes]

@[simp] theorem makes_eq_and {x : Checked α} {a : α} {q : α → Prop} :
    (x.Makes fun b => b = a ∧ q b) ↔ x = .valid a ∧ q a := by
  simp [Makes, and_left_comm]

theorem within_eq_valid_iff {step : PathStep} {x : Checked α} {a : α} :
    x.within step = .valid a ↔ x = .valid a := by
  cases x <;> simp [within]

end Checked

theorem Reader.word_of_lookup {α : Type} {cause : List Text → Cause} {table : List (Text × α)}
    {s : Text} {a : α} (hlookup : table.lookup s = some a) (hs : Text.unencodable? s = none) :
    Reader.word cause table (.text s) = .valid a := by
  simp [Reader.word, Reader.characters, Checked.andThen, hs, hlookup]

/-- What is read comes back from every mixture of what is written for it. -/
def ReadsBack {α : Type} (read : Reader α) (dump : α → Dump) : Prop :=
  ∀ data value, read data = .valid value →
    ∀ written, (dump value).IsMixture written → read written = .valid value

namespace ReadsBack

variable {α : Type}

theorem text : ReadsBack Reader.text .text := by
  rintro data s hread _ ⟨⟩
  rfl

theorem bool : ReadsBack Reader.bool .bool := by
  rintro data b hread _ ⟨⟩
  rfl

theorem int : ReadsBack Reader.int .int := by
  rintro data n hread _ ⟨⟩
  rfl

theorem text? : ReadsBack (Reader.nullable Reader.text) .text? := by
  rintro data s? hread written hwritten
  cases s? with
  | none =>
      cases hwritten
      rfl
  | some s =>
      cases hwritten
      rfl

theorem word {cause : List Text → Cause} {table : List (Text × α)} {label : α → Text}
    (hlabel : ∀ a, table.lookup (label a) = some a ∧ Text.unencodable? (label a) = none) :
    ReadsBack (Reader.word cause table) fun a => .text (label a) := by
  rintro data a hread _ ⟨⟩
  exact Reader.word_of_lookup (hlabel a).1 (hlabel a).2

theorem itemsFrom {read : Reader α} {dump : α → Dump} (h : ReadsBack read dump) {i j : Nat}
    {found written : List Datum} {values : List α}
    (hread : Reader.itemsFrom read i found = .valid values)
    (hwritten : Dump.AreMixtures (values.map dump) written) :
    Reader.itemsFrom read j written = .valid values := by
  induction found generalizing i j values written with
  | nil =>
      obtain rfl : [] = values := Checked.valid.inj hread
      cases hwritten
      rfl
  | cons item rest ih =>
      simp only [Reader.itemsFrom, Checked.seq_eq_valid_iff, Checked.makes_map] at hread
      obtain ⟨value, hitem, values, hrest, rfl⟩ := hread
      rw [Checked.within_eq_valid_iff] at hitem
      cases hwritten with
      | @cons _ data _ written hvalue hvalues =>
          simp only [Reader.itemsFrom, h _ _ hitem _ hvalue, ih hrest hvalues]
          rfl

theorem list {read : Reader α} {dump : α → Dump} (h : ReadsBack read dump) :
    ReadsBack (Reader.list read) fun values => .list (values.map dump) := by
  intro data values hread written hwritten
  cases hwritten with
  | list hitems =>
      cases data with
      | list found => exact h.itemsFrom hread hitems
      | _ => exact absurd hread nofun

theorem texts : ReadsBack (Reader.list Reader.text) .texts := text.list

end ReadsBack

/-- A field of a record: what it is called, how its value is read and written, what stands for
it if it is missing, and which part of the record it is. -/
structure FieldOf (ρ : Type) where
  Value : Type
  key : Key
  read : Reader Value
  dump : Value → Dump
  readsBack : ReadsBack read dump
  default? : Option Value
  exists_default : ∀ value ∈ default?, ∃ data, read data = .valid value
  get : ρ → Value

namespace FieldOf

variable {ρ α : Type}

def required (key : Key) {read : Reader α} {dump : α → Dump} (h : ReadsBack read dump)
    (get : ρ → α) : FieldOf ρ :=
  ⟨α, key, read, dump, h, none, nofun, get⟩

def optional (key : Key) {read : Reader α} {dump : α → Dump} (h : ReadsBack read dump)
    (default : α) (hdefault : ∃ data, read data = .valid default) (get : ρ → α) : FieldOf ρ :=
  ⟨α, key, read, dump, h, some default, by rintro _ ⟨⟩; exact hdefault, get⟩

/-- Reads the value of the field from the entries of a record. -/
def find (field : FieldOf ρ) (entries : Entries) : Checked field.Value :=
  match field.default? with
  | some default => Record.optional field.key default field.read entries
  | none => Record.required field.key field.read entries

/-- Whether the value of the field in a record is what is read from some entries. -/
def Holds (field : FieldOf ρ) (entries : Entries) (record : ρ) : Prop :=
  field.find entries = .valid (field.get record)

@[simp] theorem holds_required {key : Key} {read : Reader α} {dump : α → Dump}
    {h : ReadsBack read dump} {get : ρ → α} {entries : Entries} {record : ρ} :
    (required key h get).Holds entries record ↔
      Record.required key read entries = .valid (get record) := Iff.rfl

@[simp] theorem holds_optional {key : Key} {read : Reader α} {dump : α → Dump}
    {h : ReadsBack read dump} {default : α} {hdefault : ∃ data, read data = .valid default}
    {get : ρ → α} {entries : Entries} {record : ρ} :
    (optional key h default hdefault get).Holds entries record ↔
      Record.optional key default read entries = .valid (get record) := Iff.rfl

@[simp] theorem find_required (key : Key) {read : Reader α} {dump : α → Dump}
    (h : ReadsBack read dump) (get : ρ → α) :
    (required key h get).find = Record.required key read := rfl

@[simp] theorem find_optional (key : Key) {read : Reader α} {dump : α → Dump}
    (h : ReadsBack read dump) (default : α) (hdefault : ∃ data, read data = .valid default)
    (get : ρ → α) :
    (optional key h default hdefault get).find = Record.optional key default read := rfl

theorem find_of_find? {field : FieldOf ρ} {entries : Entries} {used : Text} {data : Datum}
    (hfind : entries.find? field.key = some (used, data)) :
    field.find entries = (field.read data).within (.key used) := by
  unfold find
  cases field.default? with
  | some default => simp only [Record.optional, hfind]
  | none => simp only [Record.required, hfind]

theorem exists_of_find_eq_valid {field : FieldOf ρ} {entries : Entries} {value : field.Value}
    (h : field.find entries = .valid value) : ∃ data, field.read data = .valid value := by
  cases hfind : entries.find? field.key with
  | some found =>
      rw [find_of_find? hfind, Checked.within_eq_valid_iff] at h
      exact ⟨_, h⟩
  | none =>
      unfold find at h
      split at h
      · rename_i default hdefault
        simp only [Record.optional, hfind] at h
        obtain rfl := Checked.valid.inj h
        exact field.exists_default _ hdefault
      · simp only [Record.required, hfind] at h
        exact absurd h nofun

end FieldOf

theorem Reader.exists_entries {ρ : Type} {title : Text} {body : Entries → Checked ρ}
    {data : Datum} {value : ρ} (h : Reader.record title body data = .valid value) :
    ∃ entries, data = .map entries := by
  cases data with
  | map entries => exact ⟨entries, rfl⟩
  | _ => exact absurd h nofun

@[simp] theorem Reader.record_map {ρ : Type} (title : Text) (body : Entries → Checked ρ)
    (entries : Entries) : Reader.record title body (.map entries) = body entries := rfl

/-- Records are read and written field by field, and no two of their fields are called
alike. -/
structure HasFields {ρ : Type} (read : Reader ρ) (dump : ρ → Dump) (fields : List (FieldOf ρ)) :
    Prop where
  isMap : ∀ data value, read data = .valid value → ∃ entries, data = .map entries := by
    exact fun _ _ => Reader.exists_entries
  reads : ∀ entries value, read (.map entries) = .valid value ↔
    ∀ field ∈ fields, field.Holds entries value
  congr : ∀ entries entries' : Entries,
    (∀ field ∈ fields, field.find entries = field.find entries') →
      read (.map entries) = read (.map entries')
  dumps : ∀ value, dump value =
      .record (fields.map fun field => (field.key, field.dump (field.get value))) := by
    exact fun _ => rfl
  apart : (fields.map FieldOf.key).Pairwise Key.IsApart := by decide

namespace HasFields

variable {ρ : Type} {read : Reader ρ} {dump : ρ → Dump} {fields : List (FieldOf ρ)}

theorem readsBack (h : HasFields read dump fields) : ReadsBack read dump := by
  intro data value hread written hwritten
  obtain ⟨entries, rfl⟩ := h.isMap data value hread
  rw [h.dumps] at hwritten
  cases hwritten with
  | @record _ entries' hmixed =>
      rw [h.reads] at hread ⊢
      intro field hfield
      obtain ⟨data, hdata⟩ := FieldOf.exists_of_find_eq_valid (hread field hfield)
      obtain ⟨used, written, hfind, hvalue⟩ := hmixed.find?_eq
        (by rw [List.map_map]; exact h.apart) (List.mem_map_of_mem hfield)
      rw [FieldOf.Holds, FieldOf.find_of_find? hfind, Checked.within_eq_valid_iff]
      exact field.readsBack data _ hdata written hvalue

end HasFields

end PageScript.Record
