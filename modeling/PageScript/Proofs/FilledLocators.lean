import PageScript.Proofs.AttributeRoundTrip
import PageScript.Proofs.CallCode
import PageScript.Proofs.CandidateLocators
import PageScript.Proofs.CodeLiteral
/-!
What a target says about its element, and the calls that look for it.  A role, a label, a test id
and a text can be read from a target, and the call is given what is read.  Nothing is read of a
role, a label or a test id that is empty, and the target is then looked for as it is; but an empty
text is read like any other, and every element of the page has it.
-/

namespace PageScript.Suite

open Selector Text

namespace Locator

variable {base target shown : Text} {exact : Bool} {found : Locator}

/-- The beginnings of the calls that look for an element by what it is on the page. -/
def semanticOpenings : List Text :=
  [".get_by_role(", ".get_by_text(", ".get_by_test_id(", ".get_by_label("]

def IsSemanticCall (base code : Text) : Prop :=
  ∃ opening ∈ semanticOpenings, base ++ opening <+: code

/-- A text behind its mark: what stands between two equal quotes is meant exactly. -/
inductive IsShown : Text → Text → Bool → Prop
  | exact (name : Quoted) : IsShown (textMark ++ name.text) name.raw true
  | loose {shown : Text} (hshown : ¬ ∃ name : Quoted, shown = name.text) :
      IsShown (textMark ++ shown) shown false

/-- The locator of an attribute with a value, by the small letters of its name. -/
def ofAttribute? (name value : Text) : Option Locator :=
  if name = "data-testid" then some (.testId value)
  else if name = "aria-label" then some (.label value)
  else if name = "role" then some (.role value none)
  else none

/-- A target names a role, and perhaps a name that is not empty; or it gives an attribute a value
that is not empty; or it shows a text that is not empty. -/
inductive Denotes (target : Text) : Locator → Prop
  | role {role : Text} {name? : Option Quoted} (hrole : IsRole (trim target) role name?) :
      Denotes target (.role role (Text.nonempty? (name?.map Quoted.raw)))
  | valued {name form : Text} {found : Locator}
      (hattribute : IsAttribute (trim target) name (some form))
      (hvalue : unescape (unquote form) ≠ [])
      (hfound : ofAttribute? (Text.lower name) (unescape (unquote form)) = some found) :
      Denotes target found
  | text {shown : Text} {exact : Bool} (hshown : IsShown (trim target) shown exact)
      (hne : shown ≠ []) : Denotes target (.text shown exact)

theorem codeLiteral_eq_codeLiteral_nil_iff {s : Text} : codeLiteral s = codeLiteral [] ↔ s = [] := by
  constructor
  · intro h
    have hunits := congrArg denoted? h
    rw [denoted?_codeLiteral, denoted?_codeLiteral] at hunits
    have hlength := length_le_length_codeUnits s
    rw [Option.some.inj hunits] at hlength
    exact List.length_eq_zero_iff.mp (Nat.le_zero.mp hlength)
  · rintro rfl
    rfl

theorem codeLiteral_nil_mem_literals_iff (hbase : IsPageName base) (found : Locator) :
    codeLiteral [] ∈ literals (found.code base) ↔ [] ∈ found.texts := by
  rw [literals_code hbase, List.mem_map]
  constructor
  · rintro ⟨text, htext, hliteral⟩
    rwa [codeLiteral_eq_codeLiteral_nil_iff.mp hliteral] at htext
  · exact fun htext => ⟨[], htext, rfl⟩

theorem not_isSemanticCall_selector (base target : Text) :
    ¬ IsSemanticCall base ((Locator.selector target).code base) := by
  rintro ⟨opening, hopening, hprefix⟩
  rw [code, List.append_assoc, List.append_assoc, List.prefix_append_right_inj] at hprefix
  have hnone : ∀ opening ∈ semanticOpenings,
      opening.isPrefixOf (".locator(" ++ (codeLiteral target ++ ")")) = false := by
    simp only [semanticOpenings, List.forall_mem_cons]
    exact ⟨rfl, rfl, rfl, rfl, List.forall_mem_nil _⟩
  have hfalse := hnone opening hopening
  rw [List.isPrefixOf_iff_prefix.mpr hprefix] at hfalse
  exact Bool.false_ne_true hfalse.symm

theorem isSemanticCall_code (base : Text) (hfound : ∀ target, found ≠ .selector target) :
    IsSemanticCall base (found.code base) := by
  refine ⟨found.opening, ?_, ?_⟩
  · cases found with
    | selector target => exact absurd rfl (hfound target)
    | role | text | testId | label => simp [semanticOpenings, opening]
  · rw [code_eq, List.append_assoc]
    exact List.prefix_append _ _

theorem isSemanticCall_code_iff (base : Text) (found : Locator) :
    IsSemanticCall base (found.code base) ↔ ∀ target, found ≠ .selector target := by
  constructor
  · rintro hcode target rfl
    exact not_isSemanticCall_selector base target hcode
  · exact isSemanticCall_code base

/-- What is looked for by its attribute is what the attribute says, unless that is nothing. -/
theorem ofTarget_of_attribute {name : Text} {form? : Option Text}
    (h : IsAttribute (trim target) name form?) :
    ofTarget .roleFirst target =
      ((Text.nonempty? (form?.map fun form => unescape (unquote form))).bind
        (ofAttribute? (Text.lower name))).getD (.selector target) := by
  have hrole : role? target = none := by
    obtain ⟨rest, hrest⟩ := List.head?_eq_some_iff.mp h.head?_eq
    rw [role?, hrest]
    rfl
  rw [ofTarget, h.kind_eq, ofAttributeName_eq, ← h.value?_eq]
  cases hvalue : Text.nonempty? (value? target) with
  | none =>
      simp only [Kind.ofSmallName, ofRole, hrole, hvalue]
      split_ifs <;> rfl
  | some value =>
      simp only [Kind.ofSmallName, ofAttribute?, ofRole, hrole, hvalue, Option.bind_some]
      split_ifs <;> rfl

theorem IsShown.ofTarget_eq (h : IsShown (trim target) shown exact) :
    ofTarget .roleFirst target = .text shown exact := by
  generalize htrim : trim target = s at h
  cases h with
  | exact name => exact ofTarget_of_quoted htrim
  | loose hshown => exact ofTarget_of_unquoted htrim hshown

theorem Denotes.ofTarget_eq (h : Denotes target found) : ofTarget .roleFirst target = found := by
  cases h with
  | role hrole =>
      have hmark : roleMark.isPrefixOf (trim target) = true := by
        rw [hrole.2]
        exact List.isPrefixOf_iff_prefix.mpr (List.prefix_append _ _)
      rw [ofTarget_roleMark hmark, hrole.role?_eq]
  | valued hattribute hvalue hfound =>
      have hread := nonempty?_eq_some_iff.mpr ⟨rfl, hvalue⟩
      rw [ofTarget_of_attribute hattribute, Option.map_some, hread, Option.bind_some, hfound]
      rfl
  | text hshown _ => exact hshown.ofTarget_eq

theorem nil_not_mem_texts_of_ofAttribute? {name value : Text} (hvalue : value ≠ [])
    (hfound : ofAttribute? name value = some found) :
    (∀ target, found ≠ .selector target) ∧ [] ∉ found.texts := by
  unfold ofAttribute? at hfound
  split_ifs at hfound <;> cases hfound <;> simp [texts, hvalue.symm]

theorem Denotes.nil_not_mem_texts (h : Denotes target found) :
    (∀ target, found ≠ .selector target) ∧ [] ∉ found.texts := by
  cases h with
  | @role role name? hrole =>
      refine ⟨fun _ => nofun, ?_⟩
      rw [texts, List.mem_cons, Option.mem_toList]
      rintro (hnil | hname)
      · exact hrole.1.1 hnil.symm
      · exact (nonempty?_eq_some_iff.mp hname).2 rfl
  | valued _ hvalue hfound => exact nil_not_mem_texts_of_ofAttribute? hvalue hfound
  | text _ hne => exact ⟨fun _ => nofun, by simpa [texts] using hne.symm⟩

/-- Something is read from a target, or it shows the empty text, or it is looked for as it is. -/
theorem ofTarget_roleFirst_cases (target : Text) :
    (∃ found, Denotes target found) ∨ (∃ exact, IsShown (trim target) [] exact) ∨
      ofTarget .roleFirst target = .selector target := by
  by_cases hrole : roleMark.isPrefixOf (trim target) = true
  · cases hread : role? target with
    | none => exact .inr (.inr (by rw [ofTarget_roleMark hrole, hread]))
    | some found =>
        obtain ⟨name?, hform, -⟩ := role?_eq_some_iff.mp hread
        exact .inl ⟨_, .role hform⟩
  by_cases htext : textMark.isPrefixOf (trim target) = true
  · obtain ⟨s, hs⟩ := List.isPrefixOf_iff_prefix.mp htext
    have hshown : ∃ shown exact, IsShown (trim target) shown exact := by
      rw [← hs]
      by_cases hname : ∃ name : Quoted, s = name.text
      · obtain ⟨name, rfl⟩ := hname
        exact ⟨name.raw, true, .exact name⟩
      · exact ⟨s, false, .loose hname⟩
    obtain ⟨shown, exact, hshown⟩ := hshown
    by_cases hne : shown = []
    · subst hne
      exact .inr (.inl ⟨exact, hshown⟩)
    · exact .inl ⟨_, .text hshown hne⟩
  cases hread : attribute? (trim target) with
  | none =>
      refine .inr (.inr ?_)
      rw [ofTarget, kind, Kind.ofTrimmed, if_neg hrole, if_neg htext, hread]
      dsimp only
      split_ifs <;> rfl
  | some found =>
      obtain ⟨form?, hattribute, -⟩ := attribute?_eq_some_iff.mp hread
      have htarget := ofTarget_of_attribute hattribute
      cases hfound : (Text.nonempty? (form?.map fun form => unescape (unquote form))).bind
          (ofAttribute? (Text.lower found.name)) with
      | none => exact .inr (.inr (by rw [htarget, hfound]; rfl))
      | some element =>
          obtain ⟨value, hvalue, helement⟩ := Option.bind_eq_some_iff.mp hfound
          obtain ⟨hform, hne⟩ := nonempty?_eq_some_iff.mp hvalue
          obtain ⟨form, rfl, rfl⟩ := Option.map_eq_some_iff.mp hform
          exact .inl ⟨element, .valued hattribute hne helement⟩

theorem exists_denotes_iff (target : Text) :
    (∃ found, Denotes target found) ↔
      (∀ other, ofTarget .roleFirst target ≠ .selector other) ∧
        [] ∉ (ofTarget .roleFirst target).texts := by
  constructor
  · rintro ⟨found, hfound⟩
    rw [hfound.ofTarget_eq]
    exact hfound.nil_not_mem_texts
  · rintro ⟨hsemantic, hfilled⟩
    rcases ofTarget_roleFirst_cases target with hfound | ⟨exact, hshown⟩ | hplain
    · exact hfound
    · rw [hshown.ofTarget_eq] at hfilled
      exact absurd List.mem_cons_self hfilled
    · exact absurd hplain (hsemantic target)

theorem exists_isShown_nil_iff (target : Text) :
    (∃ exact, IsShown (trim target) [] exact) ↔
      (∀ other, ofTarget .roleFirst target ≠ .selector other) ∧
        [] ∈ (ofTarget .roleFirst target).texts := by
  constructor
  · rintro ⟨exact, hshown⟩
    rw [hshown.ofTarget_eq]
    exact ⟨fun _ => nofun, List.mem_cons_self⟩
  · rintro ⟨hsemantic, hempty⟩
    rcases ofTarget_roleFirst_cases target with ⟨found, hfound⟩ | hshown | hplain
    · rw [hfound.ofTarget_eq] at hempty
      exact absurd hempty hfound.nil_not_mem_texts.2
    · exact hshown
    · exact absurd hplain (hsemantic target)

/-- The call is given the target as it is if, and only if, it does not say what the element is. -/
theorem ofTarget_code_eq_selector_iff (base target : Text) :
    (ofTarget .roleFirst target).code base = (Locator.selector target).code base ↔
      ¬ IsSemanticCall base ((ofTarget .roleFirst target).code base) := by
  constructor
  · intro hcode
    rw [hcode]
    exact not_isSemanticCall_selector base target
  · rw [isSemanticCall_code_iff]
    intro hnot
    rcases ofTarget_roleFirst_cases target with ⟨found, hfound⟩ | ⟨exact, hshown⟩ | hplain
    · rw [hfound.ofTarget_eq] at hnot
      exact absurd hfound.nil_not_mem_texts.1 hnot
    · rw [hshown.ofTarget_eq] at hnot
      exact absurd (fun _ => nofun) hnot
    · rw [hplain]

/-- The call that looks for a target is one that says what the element is if something can be read
from the target, and it is then given what is read, which is not empty; it is one with an empty
argument if the target shows the empty text; and in all other cases, and always in the plain style,
it is given the target as it is. -/
theorem ofTarget_code_filled (hbase : IsPageName base) (style : Style) (target : Text) :
    let code := (ofTarget style target).code base
    (∀ found, Denotes target found → style = .roleFirst → code = found.code base) ∧
    (IsSemanticCall base code ∧ codeLiteral [] ∉ literals code ↔
      style = .roleFirst ∧ ∃ found, Denotes target found) ∧
    (IsSemanticCall base code ∧ codeLiteral [] ∈ literals code ↔
      style = .roleFirst ∧ ∃ exact, IsShown (trim target) [] exact) ∧
    (code = base ++ ".locator(" ++ codeLiteral target ++ ")" ↔
      style = .locator ∨ (¬ ∃ found, Denotes target found) ∧
        ¬ ∃ exact, IsShown (trim target) [] exact) := by
  cases style with
  | locator =>
      have hnot := not_isSemanticCall_selector base target
      have hstyle : Style.locator ≠ Style.roleFirst := by decide
      refine ⟨fun _ _ h => absurd h hstyle, ?_, ?_, iff_of_true rfl (.inl rfl)⟩
      · exact iff_of_false (fun h => hnot h.1) (fun h => hstyle h.1)
      · exact iff_of_false (fun h => hnot h.1) (fun h => hstyle h.1)
  | roleFirst =>
      have hplain := ofTarget_code_eq_selector_iff base target
      dsimp only
      rw [codeLiteral_nil_mem_literals_iff hbase, exists_denotes_iff, exists_isShown_nil_iff,
        isSemanticCall_code_iff]
      rw [code, isSemanticCall_code_iff] at hplain
      refine ⟨?_, ?_, ?_, ?_⟩
      · intro found hfound _
        rw [hfound.ofTarget_eq]
      · exact (and_iff_right rfl).symm
      · exact (and_iff_right rfl).symm
      · rw [hplain]
        constructor
        · exact fun hnot => .inr ⟨fun h => hnot h.1, fun h => hnot h.1⟩
        · rintro (h | ⟨hfilled, hempty⟩) hsemantic
          · exact absurd h (by decide)
          · exact hfilled ⟨hsemantic, fun h => hempty ⟨hsemantic, h⟩⟩

/-- A role with an empty name in brackets is looked for by the role alone. -/
theorem ofTarget_code_namelessButton :
    IsPageName "page" ∧
      (ofTarget .roleFirst "role=button[name=\"\"]").code "page" = "page.get_by_role(\"button\")" ∧
      codeLiteral [] ∉ literals "page.get_by_role(\"button\")" := by
  have hfilled := ofTarget_code_filled .ofTest .roleFirst "role=button[name=\"\"]"
  have hrole : IsRole (trim "role=button[name=\"\"]") "button" (some ⟨'"', [], rfl⟩) :=
    ⟨⟨by decide, by decide +kernel⟩, by decide⟩
  have hfound := Denotes.role hrole
  have hcode := hfilled.1 _ hfound rfl
  have hnone := (hfilled.2.1.mpr ⟨rfl, _, hfound⟩).2
  rw [hcode] at hnone ⊢
  exact ⟨.ofTest, by decide, hnone⟩

/-- An empty text is looked for, between quotes and without them, where an empty role, label or
test id leaves the target as it is. -/
theorem ofTarget_code_emptyText :
    (ofTarget .roleFirst "text=\"\"").code "page" = "page.get_by_text(\"\", exact=True)" ∧
      (ofTarget .roleFirst "text=").code "page" = "page.get_by_text(\"\")" ∧
      (∀ target ∈ (["text=\"\"", "text="] : List Text),
        IsSemanticCall "page" ((ofTarget .roleFirst target).code "page") ∧
          codeLiteral [] ∈ literals ((ofTarget .roleFirst target).code "page")) ∧
      ∀ target ∈ (["[role=\"\"]", "[aria-label=\"\"]", "[data-testid=\"\"]"] : List Text),
        ofTarget .roleFirst target = .selector target := by
  have hquoted : ofTarget .roleFirst "text=\"\"" = .text [] true := by decide
  have hbare : ofTarget .roleFirst "text=" = .text [] false := by decide
  have hempty : ∀ exact, IsSemanticCall "page" ((Locator.text [] exact).code "page") ∧
      codeLiteral [] ∈ literals ((Locator.text [] exact).code "page") := by
    intro exact
    rw [codeLiteral_nil_mem_literals_iff .ofTest]
    exact ⟨isSemanticCall_code "page" fun _ => nofun, List.mem_cons_self⟩
  refine ⟨by decide, by decide, ?_, by decide +kernel⟩
  rw [List.forall_mem_cons, List.forall_mem_singleton, hquoted, hbare]
  exact ⟨hempty true, hempty false⟩

end Locator

end PageScript.Suite
