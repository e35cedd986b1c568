import PageScript.Proofs.RoleSyntax
import PageScript.Proofs.TidyLines
import PageScript.Resolution
import PageScript.Suite.Locator
/-!
The locators of the targets that are made for an element, from its visible text or from its
role.  Both are written behind a mark as they are; the compiler reads them by the syntax of
selectors, in which a text between quotes is an exact one, and in which a role is one name.
-/

namespace PageScript

namespace Text

theorem nonempty?_eq_some_iff {text? : Option Text} {text : Text} :
    nonempty? text? = some text ↔ text? = some text ∧ text ≠ [] := by
  rw [nonempty?, Option.filter_eq_some_iff, Bool.not_eq_true', List.isEmpty_eq_false_iff]

/-- Blanks between the parts are not at an end, so the joined text begins and ends as its first
and last part do. -/
theorem isTrimmed_intercalate {sep : Text} {parts : List Text}
    (hparts : ∀ part ∈ parts, part ≠ [] ∧ IsTrimmed part) :
    IsTrimmed (sep.intercalate parts) ∧ (parts ≠ [] → sep.intercalate parts ≠ []) := by
  induction parts with
  | nil => exact ⟨isTrimmed_of_solid nofun, fun h => absurd rfl h⟩
  | cons part parts ih =>
      obtain ⟨⟨hne, hpart⟩, hrest⟩ := List.forall_mem_cons.mp hparts
      cases parts with
      | nil =>
          rw [List.intercalate_singleton]
          exact ⟨hpart, fun _ => hne⟩
      | cons next parts =>
          obtain ⟨htrimmed, hjoined⟩ := ih hrest
          have hjoined := hjoined (List.cons_ne_nil _ _)
          rw [List.intercalate_cons_cons]
          exact ⟨hpart.around hne htrimmed hjoined sep, fun _ =>
            List.append_ne_nil_of_right_ne_nil _ hjoined⟩

theorem ne_nil_of_mem_wordsAfter {s word read : Text} (hword : word ∈ wordsAfter read s) :
    word ≠ [] := by
  induction s generalizing read with
  | nil =>
      unfold wordsAfter at hword
      split at hword
      · exact absurd hword List.not_mem_nil
      · rename_i hread
        obtain rfl := List.mem_singleton.mp hword
        simpa using hread
  | cons c s ih =>
      unfold wordsAfter at hword
      split at hword
      · split at hword
        · exact ih hword
        · rename_i hread
          rcases List.mem_cons.mp hword with rfl | hword
          · simpa using hread
          · exact ih hword
      · exact ih hword

theorem isTrimmed_collapse (s : Text) : IsTrimmed (collapse s) := by
  refine (isTrimmed_intercalate fun word hword => ⟨ne_nil_of_mem_wordsAfter hword, ?_⟩).1
  exact isTrimmed_of_solid (isBlank_eq_false_of_mem_wordsAfter (by simp) hword)

end Text

namespace Selector

open Text

theorem unquote_eq_self {s : Text} (hs : ¬ ∃ name : Quoted, s = name.text) : unquote s = s := by
  unfold unquote
  split
  · rename_i quote rest
    split
    · rename_i hquoted
      simp only [Bool.and_eq_true, beq_iff_eq] at hquoted
      have hrest := List.dropLast_append_getLast? _ hquoted.2
      exact absurd ⟨⟨quote, rest.dropLast, hquoted.1⟩, by rw [Quoted.text, hrest]⟩ hs
    · rfl
  · rfl

theorem kind_of_roleMark {s : Text} (hs : roleMark.isPrefixOf (trim s) = true) : kind s = .role := by
  rw [kind, Kind.ofTrimmed, if_pos hs]

theorem value?_of_roleMark {s : Text} (hs : roleMark.isPrefixOf (trim s) = true) :
    value? s = none := by
  obtain ⟨rest, hrest⟩ := List.isPrefixOf_iff_prefix.mp hs
  rw [value?, ← hrest]
  rfl

theorem trim_marked {mark s : Text} (hmark : IsTrimmed mark) (hs : IsTrimmed s) :
    trim (mark ++ s) = mark ++ s := (hmark.append hs).trim_eq

theorem isTrimmed_textMark : IsTrimmed textMark := ⟨by decide, by decide⟩

theorem trim_ofRole (value : Text) : trim (ofRole value) = roleMark ++ trim value :=
  trim_marked isTrimmed_roleMark (isTrimmed_trim value)

theorem isPrefixOf_trim_ofRole (value : Text) : roleMark.isPrefixOf (trim (ofRole value)) = true := by
  rw [trim_ofRole]
  exact List.isPrefixOf_iff_prefix.mpr (List.prefix_append _ _)

/-- What is read of the selector of a role is the role up to its name, and a name behind it. -/
theorem role?_ofRole_eq_some_iff {value : Text} {found : Role} :
    role? (ofRole value) = some found ↔ IsName found.role ∧
      ∃ name?, trim value = found.role ++ nameForm name? ∧ found.name? = name?.map Quoted.raw := by
  rw [role?_eq_some_iff, trim_ofRole]
  constructor
  · rintro ⟨name?, ⟨hrole, hvalue⟩, hname⟩
    exact ⟨hrole, name?, List.append_cancel_left hvalue, hname⟩
  · rintro ⟨hrole, name?, hvalue, hname⟩
    exact ⟨name?, ⟨hrole, congrArg (roleMark ++ ·) hvalue⟩, hname⟩

theorem ofText?_eq_some {text? : Option Text} {candidate : Text}
    (h : ofText? text? = some candidate) : candidate = textMark ++ oneLine text? := by
  unfold ofText? at h
  dsimp only at h
  split at h
  · exact absurd h nofun
  · exact (Option.some.inj h).symm

end Selector

namespace Suite.Locator

open Selector Text

theorem ofTarget_roleMark {target : Text} (h : roleMark.isPrefixOf (trim target) = true) :
    ofTarget .roleFirst target = match role? target with
      | some found => .role found.role (Text.nonempty? found.name?)
      | none => .selector target := by
  rw [ofTarget, kind_of_roleMark h]
  dsimp only
  rw [ofRole, value?_of_roleMark h]
  cases hread : role? target with
  | none => rfl
  | some found =>
      obtain ⟨name?, hrole, -⟩ := role?_eq_some_iff.mp hread
      have hsome : Text.nonempty? (some found.role) = some found.role :=
        nonempty?_eq_some_iff.mpr ⟨rfl, hrole.1.1⟩
      simp [hsome]

theorem kind_of_textMark {target s : Text} (h : trim target = textMark ++ s) :
    kind target = .text := by
  rw [kind, h]
  rfl

theorem kind_textMark {s : Text} (hs : IsTrimmed s) : kind (textMark ++ s) = .text :=
  kind_of_textMark (trim_marked isTrimmed_textMark hs)

theorem ofTarget_of_textMark {target s : Text} (h : trim target = textMark ++ s) :
    ofTarget .roleFirst target =
      if (unquote s).length < s.length then .text (unquote s) true else .text s false := by
  rw [ofTarget, kind_of_textMark h]
  dsimp only
  rw [ofText, h, List.drop_left]

theorem ofTarget_of_quoted {target : Text} {name : Quoted} (h : trim target = textMark ++ name.text) :
    ofTarget .roleFirst target = .text name.raw true := by
  have hunquote : unquote name.text = name.raw := unquote_quoted name.isQuote name.raw
  have hlength : name.raw.length < name.text.length := by
    simp only [Quoted.text, List.length_cons, List.length_append]
    omega
  rw [ofTarget_of_textMark h, hunquote, if_pos hlength]

theorem ofTarget_of_unquoted {target s : Text} (h : trim target = textMark ++ s)
    (hs : ¬ ∃ name : Quoted, s = name.text) : ofTarget .roleFirst target = .text s false := by
  rw [ofTarget_of_textMark h, unquote_eq_self hs, if_neg (Nat.lt_irrefl _)]

theorem ofTarget_quoted {s : Text} (hs : IsTrimmed s) {name : Quoted} (hname : s = name.text) :
    ofTarget .roleFirst (textMark ++ s) = .text name.raw true := by
  subst hname
  exact ofTarget_of_quoted (trim_marked isTrimmed_textMark hs)

theorem ofTarget_unquoted {s : Text} (hs : IsTrimmed s) (hname : ¬ ∃ name : Quoted, s = name.text) :
    ofTarget .roleFirst (textMark ++ s) = .text s false :=
  ofTarget_of_unquoted (trim_marked isTrimmed_textMark hs) hname

/-- A literal ends in its quote, so nothing else can stand before the bracket that closes the
call. -/
theorem text_code_ne (base shown other : Text) :
    (Locator.text shown true).code base ≠ (Locator.text other false).code base := by
  intro h
  have hcall : codeLiteral shown ++ ", exact=True)" = codeLiteral other ++ ")" := by
    simpa only [code, List.append_assoc, List.append_cancel_left_eq] using h
  have hsplit : (", exact=True)" : Text) = ", exact=True" ++ ")" := by decide
  rw [hsplit, ← List.append_assoc] at hcall
  have hlast := congrArg List.getLast? (List.append_cancel_right hcall)
  have hquote : (codeLiteral other).getLast? = some (.char '"') := List.getLast?_concat
  have hword : (", exact=True" : Text).getLast? = some (.char 'e') := by decide
  rw [hquote, List.getLast?_append, hword, Option.some_or] at hlast
  exact absurd (Option.some.inj hlast) (by decide)

/-- A target that is made of a visible text is looked for by just that text, unless the text
stands between two equal quotes: then what stands between them is looked for, and nothing
else. -/
theorem ofTarget_textCandidate {text? : Option Text} {candidate : Text}
    (h : ofText? text? = some candidate) :
    kind candidate = .text ∧
    (ofTarget .roleFirst candidate = .text (oneLine text?) false ↔
      ¬ ∃ name : Quoted, oneLine text? = name.text) ∧
    (∀ base, (ofTarget .roleFirst candidate).code base =
        base ++ ".get_by_text(" ++ codeLiteral (oneLine text?) ++ ")" ↔
      ¬ ∃ name : Quoted, oneLine text? = name.text) ∧
    ∀ name : Quoted, oneLine text? = name.text →
      ofTarget .roleFirst candidate = .text name.raw true := by
  have htrimmed : IsTrimmed (oneLine text?) := isTrimmed_collapse _
  obtain rfl := ofText?_eq_some h
  have hquoted : ∀ name : Quoted, oneLine text? = name.text →
      ofTarget .roleFirst (textMark ++ oneLine text?) = .text name.raw true :=
    fun name hname => ofTarget_quoted htrimmed hname
  have hplain := @ofTarget_unquoted _ htrimmed
  refine ⟨kind_textMark htrimmed, ⟨?_, hplain⟩, fun base => ⟨?_, ?_⟩, hquoted⟩
  · rintro hlocator ⟨name, hname⟩
    rw [hquoted name hname] at hlocator
    exact absurd (Locator.text.inj hlocator).2 (by decide)
  · rintro hcode ⟨name, hname⟩
    rw [hquoted name hname] at hcode
    exact text_code_ne base _ _ hcode
  · intro hname
    rw [hplain hname]
    rfl

theorem ofTarget_textCandidate_signIn :
    ofText? (some "  Sign\n in ") = some "text=Sign in" ∧
      ofTarget .roleFirst "text=Sign in" = .text "Sign in" false := by
  have h : ofText? (some "  Sign\n in ") = some "text=Sign in" := by decide
  have hline : oneLine (some "  Sign\n in ") = "Sign in" := by decide
  obtain ⟨-, hplain, -⟩ := ofTarget_textCandidate h
  rw [hline] at hplain
  refine ⟨h, hplain.mpr ?_⟩
  rintro ⟨⟨quote, raw, hquote⟩, hname⟩
  obtain rfl : .char 'S' = quote := (List.cons.inj hname).1
  exact absurd hquote (by decide)

/-- A text between quotes is looked for without them. -/
theorem ofTarget_textCandidate_quotedHello :
    ofText? (some "\"Hello\"") = some "text=\"Hello\"" ∧ oneLine (some "\"Hello\"") = "\"Hello\"" ∧
      ofTarget .roleFirst "text=\"Hello\"" = .text "Hello" true := by
  exact ⟨by decide, by decide, by decide⟩

/-- A target that is made of a role is looked for by that role if, and only if, the role is one
name.  A role that goes on with a quoted name in brackets is taken for a role and a name, and
any other is left as it is. -/
theorem ofTarget_roleCandidate (value : Text) :
    let candidate := Resolution.Tier.role.selector value
    kind candidate = .role ∧
    (role? candidate = some ⟨trim value, none⟩ ↔ IsName (trim value)) ∧
    (ofTarget .roleFirst candidate = .role (trim value) none ↔ IsName (trim value)) ∧
    (∀ role (name : Quoted), IsName role → trim value = role ++ nameForm (some name) →
      role? candidate = some ⟨role, some name.raw⟩ ∧
        ofTarget .roleFirst candidate = .role role (Text.nonempty? (some name.raw))) ∧
    ((∀ role name?, IsName role → trim value ≠ role ++ nameForm name?) →
      role? candidate = none ∧ ofTarget .roleFirst candidate = .selector candidate) := by
  have hmark := isPrefixOf_trim_ofRole value
  have hplain : IsName (trim value) → role? (Selector.ofRole value) = some ⟨trim value, none⟩ :=
    fun hname => role?_ofRole_eq_some_iff.mpr ⟨hname, none, (List.append_nil _).symm, rfl⟩
  refine ⟨kind_of_roleMark hmark, ⟨fun h => (role?_ofRole_eq_some_iff.mp h).1, hplain⟩,
    ⟨?_, ?_⟩, ?_, ?_⟩
  · intro hlocator
    rw [Resolution.Tier.selector, ofTarget_roleMark hmark] at hlocator
    split at hlocator
    · rename_i found hfound
      obtain ⟨hrole, -⟩ := Locator.role.inj hlocator
      exact hrole ▸ (role?_ofRole_eq_some_iff.mp hfound).1
    · exact absurd hlocator nofun
  · intro hname
    rw [Resolution.Tier.selector, ofTarget_roleMark hmark, hplain hname]
    rfl
  · intro role name hrole hvalue
    have hread : role? (Selector.ofRole value) = some ⟨role, some name.raw⟩ :=
      role?_ofRole_eq_some_iff.mpr ⟨hrole, some name, hvalue, rfl⟩
    rw [Resolution.Tier.selector, ofTarget_roleMark hmark, hread]
    exact ⟨rfl, rfl⟩
  · intro hother
    have hnone : role? (Selector.ofRole value) = none := by
      rw [Option.eq_none_iff_forall_ne_some]
      intro found hfound
      obtain ⟨hrole, name?, hvalue, -⟩ := role?_ofRole_eq_some_iff.mp hfound
      exact hother found.role name? hrole hvalue
    rw [Resolution.Tier.selector, ofTarget_roleMark hmark, hnone]
    exact ⟨rfl, rfl⟩

/-- Two roles of one element are no role selector. -/
theorem ofTarget_roleCandidate_twoRoles :
    isBlankText "button link" = false ∧
      role? (Resolution.Tier.role.selector "button link") = none ∧
      ofTarget .roleFirst (Resolution.Tier.role.selector "button link") =
        .selector "role=button link" := by
  exact ⟨by decide, by decide +kernel, by decide +kernel⟩

end Suite.Locator

end PageScript
