import PageScript.Proofs.AttributeRoundTrip
/-!
The syntax of role selectors, and what the reader takes for one.  It reads every selector of
the syntax, but asks for nothing between the first quote of a name and the last: a name may go
on over other brackets, and it is read as it is written, backslashes included.
-/

namespace PageScript.Selector

open Text

/-- A text between two equal quotes. -/
structure Quoted where
  quote : CodePoint
  raw : Text
  isQuote : isQuote quote = true

namespace Quoted

def text (name : Quoted) : Text := name.quote :: (name.raw ++ [name.quote])

/-- No quote ends the text before its last one. -/
def IsClosed (name : Quoted) : Prop := standsFree name.quote name.raw = false

instance (name : Quoted) : Decidable name.IsClosed :=
  inferInstanceAs (Decidable (standsFree name.quote name.raw = false))

theorem text_injective {name other : Quoted} (h : name.text = other.text) : name = other := by
  obtain ⟨quote, raw, _⟩ := name
  obtain ⟨quote', raw', _⟩ := other
  obtain ⟨hquote, hrest⟩ := List.cons.inj h
  obtain rfl : quote = quote' := hquote
  obtain rfl : raw = raw' := List.append_cancel_right hrest
  rfl

end Quoted

/-- What stands behind the role: nothing, or a quoted name in brackets. -/
def nameForm : Option Quoted → Text
  | none => []
  | some name => nameMark ++ (name.text ++ [.char ']'])

/-- A role selector: the role, and perhaps a quoted name in brackets. -/
def IsRole (s role : Text) (name? : Option Quoted) : Prop :=
  IsName role ∧ s = roleMark ++ (role ++ nameForm name?)

/-- The text is one role selector, of a role and perhaps a name. -/
def IsSingleRole (s role : Text) (name? : Option Quoted) : Prop :=
  IsRole s role name? ∧ ∀ name ∈ name?, name.IsClosed

theorem behind?_append (mark s : Text) : behind? mark (mark ++ s) = some s := by
  rw [behind?, if_pos (List.isPrefixOf_iff_prefix.mpr (List.prefix_append mark s)), List.drop_left]

theorem eq_append_of_behind? {mark s rest : Text} (h : behind? mark s = some rest) :
    s = mark ++ rest := by
  unfold behind? at h
  split at h
  · rename_i hmark
    obtain ⟨rest', rfl⟩ := List.isPrefixOf_iff_prefix.mp hmark
    rw [List.drop_left] at h
    rw [Option.some.inj h]
  · exact absurd h nofun

theorem quotedName?_text (name : Quoted) :
    quotedName? (name.text ++ [.char ']']) = some name.raw := by
  obtain ⟨quote, raw, hquote⟩ := name
  rw [isQuote] at hquote
  simp only [Quoted.text, List.cons_append, quotedName?, hquote, List.getLast?_concat,
    List.dropLast_concat, beq_self_eq_true]
  rfl

theorem exists_text_of_quotedName? {s raw : Text} (h : quotedName? s = some raw) :
    ∃ name : Quoted, s = name.text ++ [.char ']'] ∧ name.raw = raw := by
  unfold quotedName? at h
  split at h
  · rename_i quote s
    split at h
    · rename_i hform
      simp only [Bool.and_eq_true, beq_iff_eq] at hform
      obtain ⟨⟨hquote, hbracket⟩, hlast⟩ := hform
      obtain rfl := Option.some.inj h
      refine ⟨⟨quote, s.dropLast.dropLast, hquote⟩, ?_, rfl⟩
      have hinner := List.dropLast_append_getLast? _ hlast
      have houter := List.dropLast_append_getLast? _ hbracket
      simp only [Quoted.text, List.cons_append, hinner, houter]
    · exact absurd h nofun
  · exact absurd h nofun

/-- What is read as a role selector, from behind the role. -/
def roleNamed? (role : Text) : Text → Option Role
  | [] => some ⟨role, none⟩
  | rest => ((behind? nameMark rest).bind quotedName?).map fun name => ⟨role, some name⟩

theorem role?_of_trim {s role rest : Text} (htrim : trim s = roleMark ++ (role ++ rest))
    (hrole : IsName role) (hrest : ∀ c ∈ rest.head?, isNameChar c = false) :
    role? s = roleNamed? role rest := by
  obtain ⟨htake, hdrop⟩ := takeWhile_append_of_head hrole.2 hrest
  have hne : role.isEmpty = false := List.isEmpty_eq_false_iff.mpr hrole.1
  simp only [role?, htrim, behind?_append, htake, hdrop, hne, Bool.false_eq_true, if_false]
  cases rest <;> rfl

theorem exists_of_role? {s : Text} {found : Role} (h : role? s = some found) :
    ∃ role rest, trim s = roleMark ++ (role ++ rest) ∧ IsName role ∧
      roleNamed? role rest = some found := by
  unfold role? at h
  split at h
  · exact absurd h nofun
  · rename_i body hmark
    dsimp only at h
    split at h
    · exact absurd h nofun
    · rename_i hrole
      refine ⟨body.takeWhile isNameChar, body.dropWhile isNameChar, ?_, ⟨?_, ?_⟩, ?_⟩
      · rw [List.takeWhile_append_dropWhile]
        exact eq_append_of_behind? hmark
      · simpa using hrole
      · exact fun c hc => List.mem_takeWhile_imp hc
      · rw [← h]
        cases body.dropWhile isNameChar <;> rfl

theorem head?_nameForm (name? : Option Quoted) :
    ∀ c ∈ (nameForm name?).head?, isNameChar c = false := by
  cases name? with
  | none => exact nofun
  | some name =>
      rintro c ⟨⟩
      decide

theorem roleNamed?_nameForm (role : Text) (name? : Option Quoted) :
    roleNamed? role (nameForm name?) = some ⟨role, name?.map Quoted.raw⟩ := by
  cases name? with
  | none => rfl
  | some name =>
      have hread : (behind? nameMark (nameForm (some name))).bind quotedName? = some name.raw := by
        rw [nameForm, behind?_append, Option.bind_some, quotedName?_text]
      exact congrArg (Option.map _) hread

theorem exists_nameForm_of_roleNamed? {role rest : Text} {found : Role}
    (h : roleNamed? role rest = some found) :
    ∃ name? : Option Quoted, rest = nameForm name? ∧ found = ⟨role, name?.map Quoted.raw⟩ := by
  cases rest with
  | nil => exact ⟨none, rfl, (Option.some.inj h).symm⟩
  | cons c rest =>
      obtain ⟨raw, hraw, rfl⟩ := Option.map_eq_some_iff.mp h
      obtain ⟨quoted, hmark, hquoted⟩ := Option.bind_eq_some_iff.mp hraw
      obtain ⟨name, rfl, rfl⟩ := exists_text_of_quotedName? hquoted
      exact ⟨some name, eq_append_of_behind? hmark, rfl⟩

theorem IsRole.role?_eq {s role : Text} {name? : Option Quoted} (h : IsRole (trim s) role name?) :
    role? s = some ⟨role, name?.map Quoted.raw⟩ := by
  rw [role?_of_trim h.2 h.1 (head?_nameForm name?), roleNamed?_nameForm]

/-- The reader takes every text for a role selector that is one up to its name. -/
theorem role?_eq_some_iff {s : Text} {found : Role} : role? s = some found ↔
    ∃ name?, IsRole (trim s) found.role name? ∧ found.name? = name?.map Quoted.raw := by
  constructor
  · intro h
    obtain ⟨role, rest, htrim, hrole, hnamed⟩ := exists_of_role? h
    obtain ⟨name?, rfl, rfl⟩ := exists_nameForm_of_roleNamed? hnamed
    exact ⟨name?, ⟨hrole, htrim⟩, rfl⟩
  · obtain ⟨role, _⟩ := found
    rintro ⟨name?, hrole, rfl⟩
    exact hrole.role?_eq

theorem nameForm_injective {name? other? : Option Quoted} (h : nameForm name? = nameForm other?) :
    name? = other? := by
  match name?, other? with
  | none, none => rfl
  | none, some _ => exact absurd h nofun
  | some _, none => exact absurd h nofun
  | some name, some other =>
      have htext := List.append_cancel_right (List.append_cancel_left h)
      rw [Quoted.text_injective htext]

theorem IsRole.unique {s role role' : Text} {name? name?' : Option Quoted}
    (h : IsRole s role name?) (h' : IsRole s role' name?') : role' = role ∧ name?' = name? := by
  have hrest := List.append_cancel_left (h'.2.symm.trans h.2)
  obtain ⟨htake, hdrop⟩ := takeWhile_append_of_head h.1.2 (head?_nameForm name?)
  obtain ⟨htake', hdrop'⟩ := takeWhile_append_of_head h'.1.2 (head?_nameForm name?')
  rw [hrest, htake] at htake'
  rw [hrest, hdrop] at hdrop'
  exact ⟨htake'.symm, nameForm_injective hdrop'.symm⟩

theorem IsRole.isSingleRole_iff {s role : Text} {name? : Option Quoted} (h : IsRole s role name?) :
    (∃ role' name?', IsSingleRole s role' name?') ↔ ∀ name ∈ name?, name.IsClosed := by
  constructor
  · rintro ⟨role', name?', hrole, hclosed⟩
    obtain ⟨rfl, rfl⟩ := h.unique hrole
    exact hclosed
  · exact fun hclosed => ⟨role, name?, h, hclosed⟩

/-- A name between double quotes, with its quotes and its backslashes escaped. -/
def Quoted.ofName (name : Text) : Quoted := ⟨'"', escape name, rfl⟩

theorem Quoted.isClosed_ofName (name : Text) : (Quoted.ofName name).IsClosed :=
  standsFree_escape name

theorem IsName.isTrimmed {name : Text} (h : IsName name) : IsTrimmed name := by
  apply isTrimmed_of_solid
  intro c hc
  rw [Bool.eq_false_iff]
  intro hblank
  exact absurd ((h.2 c hc).symm.trans (isNameChar_of_isBlank hblank)) nofun

theorem isTrimmed_nameForm (name? : Option Quoted) : IsTrimmed (nameForm name?) := by
  cases name? with
  | none => exact isTrimmed_of_solid nofun
  | some name =>
      constructor
      · rintro c ⟨⟩
        rfl
      · rw [nameForm, ← List.append_assoc, List.getLast?_concat]
        rintro c ⟨⟩
        rfl

theorem isTrimmed_roleMark : IsTrimmed roleMark := ⟨by decide, by decide⟩

theorem IsName.isTrimmed_role {role : Text} (hrole : IsName role) (name? : Option Quoted) :
    IsTrimmed (roleMark ++ (role ++ nameForm name?)) :=
  isTrimmed_roleMark.append (hrole.isTrimmed.append (isTrimmed_nameForm name?))

theorem isSingleRole_named {role : Text} (hrole : IsName role) (name : Text) :
    IsSingleRole (trim ("role=" ++ role ++ "[name=\"" ++ escape name ++ "\"]")) role
      (some (.ofName name)) := by
  have hform : ("role=" ++ role ++ "[name=\"" ++ escape name ++ "\"]" : Text) =
      roleMark ++ (role ++ nameForm (some (.ofName name))) := by
    simp [nameForm, roleMark, nameMark, Quoted.text, Quoted.ofName, Text.ofString]
  rw [hform, (hrole.isTrimmed_role _).trim_eq]
  refine ⟨⟨hrole, rfl⟩, ?_⟩
  rintro _ ⟨⟩
  exact Quoted.isClosed_ofName name

theorem length_le_length_escape (s : Text) : s.length ≤ (escape s).length := by
  induction s with
  | nil => exact Nat.le_refl 0
  | cons c s ih =>
      rw [escape_cons, List.length_append, List.length_cons]
      split <;> simp only [List.length_cons, List.length_nil] <;> omega

theorem escape_eq_self_iff (s : Text) : escape s = s ↔ ∀ c ∈ s, c ≠ '\\' ∧ c ≠ '"' := by
  induction s with
  | nil => exact ⟨fun _ _ hc => absurd hc List.not_mem_nil, fun _ => rfl⟩
  | cons c s ih =>
      rw [List.forall_mem_cons, ← ih]
      by_cases hc : c ≠ '\\' ∧ c ≠ '"'
      · rw [escape_cons_plain hc.1 hc.2, List.cons_inj_right, and_iff_right hc]
      · -- an escaped character makes the text longer
        refine iff_of_false (fun hself => ?_) (fun h => hc h.1)
        have hescaped : (c == '\\' || c == '"') = true := by
          rw [Bool.or_eq_true, beq_iff_eq, beq_iff_eq]
          tauto
        have hlength := congrArg List.length hself
        have hle := length_le_length_escape s
        rw [escape_cons, if_pos hescaped, List.length_append, List.length_cons] at hlength
        simp only [List.length_cons, List.length_nil] at hlength
        omega

/-- A role is read if, and only if, the text is a role selector up to its name, which can be
anything between two equal quotes; the name is read as it is written.  The text is one role
selector if, and only if, no quote ends the name before its last one.  So the selector that is
written for a name is read with that name if, and only if, nothing in the name is escaped. -/
theorem role?_reads_raw (s : Text) :
    (∀ found, role? s = some found ↔
      ∃ name?, IsRole (trim s) found.role name? ∧ found.name? = name?.map Quoted.raw) ∧
    (∀ role name?, IsRole (trim s) role name? →
      ((∃ role' name?', IsSingleRole (trim s) role' name?') ↔ ∀ name ∈ name?, name.IsClosed)) ∧
    (∀ role name?, IsSingleRole (trim s) role name? →
      role? s = some ⟨role, name?.map Quoted.raw⟩) ∧
    ∀ role name : Text, IsName role →
      let selector : Text := "role=" ++ role ++ "[name=\"" ++ escape name ++ "\"]"
      IsSingleRole (trim selector) role (some (.ofName name)) ∧
        role? selector = some ⟨role, some (escape name)⟩ ∧ unescape (escape name) = name ∧
        (role? selector = some ⟨role, some name⟩ ↔ ∀ c ∈ name, c ≠ '\\' ∧ c ≠ '"') := by
  refine ⟨fun found => role?_eq_some_iff, fun role name? h => h.isSingleRole_iff,
    fun role name? h => h.1.role?_eq, ?_⟩
  intro role name hrole
  have hsingle := isSingleRole_named hrole name
  have hread := hsingle.1.role?_eq
  refine ⟨hsingle, hread, unescape_escape name, ?_⟩
  rw [hread, ← escape_eq_self_iff]
  simp [Quoted.ofName]

/-- A quote in a name comes back with its backslash, and two names are read as one. -/
theorem role?_saidButton :
    IsName "button" ∧ escape "say \"hi\"" = "say \\\"hi\\\"" ∧
      role? "role=button[name=\"say \\\"hi\\\"\"]" = some ⟨"button", some "say \\\"hi\\\""⟩ ∧
      role? "role=button[name=\"a\"][name=\"b\"]" = some ⟨"button", some "a\"][name=\"b"⟩ ∧
      ¬ ∃ role name?, IsSingleRole (trim "role=button[name=\"a\"][name=\"b\"]") role name? := by
  have hbutton : IsName "button" := ⟨by decide, by decide +kernel⟩
  refine ⟨hbutton, by decide, by decide +kernel, by decide +kernel, ?_⟩
  have htrim : trim "role=button[name=\"a\"][name=\"b\"]" =
      roleMark ++ ("button" ++ nameForm (some ⟨'"', "a\"][name=\"b", rfl⟩)) := by decide
  have hclosed := IsRole.isSingleRole_iff ⟨hbutton, htrim⟩
  rw [hclosed]
  intro h
  exact absurd (h _ rfl) (by decide)

end PageScript.Selector
