import PageScript.Proofs.CodePieces
import PageScript.Proofs.NameCharacters
import PageScript.Suite.Call

namespace PageScript.Suite

/-- What the names in a method of a page object stand for when a test calls it:
the page of the object is that of the test, and the parameter is what the call
hands over. -/
def calledWith (value? : Option Text) : Bindings :=
  ("self.page", "page") :: (value?.map fun value => (Text.ofString "value", value)).toList

/-- The names that generated code has for a page. -/
inductive IsPageName : Text → Prop where
  | ofTest : IsPageName "page"
  | ofObject : IsPageName "self.page"

namespace Locator

/-- The texts that a locator names, in the order of its code. -/
def texts : Locator → List Text
  | .selector target => [target]
  | .role found name? => found :: name?.toList
  | .text shown _ => [shown]
  | .testId id => [id]
  | .label name => [name]

/-- The code of a locator between the page and its first literal. -/
def opening : Locator → Text
  | .selector _ => ".locator("
  | .role _ _ => ".get_by_role("
  | .text _ _ => ".get_by_text("
  | .testId _ => ".get_by_test_id("
  | .label _ => ".get_by_label("

/-- The text of the first literal of a locator. -/
def mainText : Locator → Text
  | .selector target => target
  | .role found _ => found
  | .text shown _ => shown
  | .testId id => id
  | .label name => name

/-- The code of a locator behind its first literal. -/
def closing : Locator → Text
  | .role _ (some name) => ", name=" ++ Text.codeLiteral name ++ ")"
  | .text _ true => ", exact=True)"
  | _ => ")"

theorem code_eq (base : Text) (element : Locator) :
    element.code base =
      base ++ element.opening ++ Text.codeLiteral element.mainText ++ element.closing := by
  rcases element with target | ⟨found, name | name⟩ | ⟨shown, exact | exact⟩ | id | name <;>
    simp [code, opening, mainText, closing, Text.ofString]

theorem opening_readsAlone {base : Text} (hbase : IsPageName base) (element : Locator) :
    ReadsAlone (base ++ element.opening) := by
  cases hbase <;> cases element <;> exact fun _ => rfl

theorem closing_readsAlone (element : Locator) : ReadsAlone element.closing := by
  have hsimple : ReadsAlone ")" := fun _ => rfl
  rcases element with target | ⟨found, name | name⟩ | ⟨shown, exact | exact⟩ | id | name
  case role.some =>
    have hname : ReadsAlone ", name=" := fun _ => rfl
    exact (hname.append (readsAlone_codeLiteral name)).append hsimple
  case text.true => exact fun _ => rfl
  all_goals exact hsimple

theorem code_readsAlone {base : Text} (hbase : IsPageName base) (element : Locator) :
    ReadsAlone (element.code base) := by
  rw [code_eq]
  exact ((opening_readsAlone hbase element).append (readsAlone_codeLiteral _)).append
    (closing_readsAlone element)

theorem substitute_opening (value? : Option Text) (element : Locator) :
    substitute (calledWith value?) ("self.page" ++ element.opening) = "page" ++ element.opening := by
  cases value? <;> cases element <;> rfl

theorem substitute_closing (value? : Option Text) (element : Locator) :
    substitute (calledWith value?) element.closing = element.closing := by
  rcases element with target | ⟨found, name | name⟩ | ⟨shown, exact | exact⟩ | id | name
  case role.some =>
    have hname : ReadsAlone ", name=" := fun _ => rfl
    have hfill : substitute (calledWith value?) ", name=" = ", name=" := by cases value? <;> rfl
    have hend : substitute (calledWith value?) ")" = ")" := by cases value? <;> rfl
    rw [closing, substitute_append _ (hname.append (readsAlone_codeLiteral name)),
      substitute_append _ hname, substitute_codeLiteral, hfill, hend]
  all_goals cases value? <;> rfl

/-- Called on the page of a test, the locator of a method is that of the test. -/
theorem substitute_code (value? : Option Text) (element : Locator) :
    substitute (calledWith value?) (element.code "self.page") = element.code "page" := by
  have hopening := opening_readsAlone .ofObject element
  rw [code_eq, code_eq, substitute_append _ (hopening.append (readsAlone_codeLiteral _)),
    substitute_append _ hopening, substitute_codeLiteral, substitute_opening, substitute_closing]

theorem literals_closing (element : Locator) :
    literals element.closing = (element.texts.drop 1).map Text.codeLiteral := by
  rcases element with target | ⟨found, name | name⟩ | ⟨shown, exact | exact⟩ | id | name
  case role.some =>
    have hname : ReadsAlone ", name=" := fun _ => rfl
    rw [closing, literals_append (hname.append (readsAlone_codeLiteral name)),
      literals_append hname, literals_codeLiteral]
    rfl
  all_goals rfl

theorem literals_code {base : Text} (hbase : IsPageName base) (element : Locator) :
    literals (element.code base) = element.texts.map Text.codeLiteral := by
  have hopening := opening_readsAlone hbase element
  have hnone : literals (base ++ element.opening) = [] := by
    cases hbase <;> cases element <;> rfl
  have htexts : element.texts = element.mainText :: element.texts.drop 1 := by
    cases element <;> rfl
  rw [code_eq, literals_append (hopening.append (readsAlone_codeLiteral _)),
    literals_append hopening, hnone, literals_codeLiteral, literals_closing, htexts]
  rfl

end Locator

/-- The text of an argument that is not left to the caller. -/
def Argument.text? : Argument → Option Text
  | .literal text => some text
  | .parameter => none

namespace Call

/-- The texts that a call names, in the order of its code. -/
def texts : Call → List Text
  | .goto url => [url]
  | .pause _ => []
  | .fill element argument | .type element argument | .select element argument =>
      element.texts ++ argument.text?.toList
  | .click element | .hover element | .expectVisible element | .waitFor element => element.texts

theorem literals_argument (opening : Text) (hopening : ReadsAlone opening)
    (hnone : literals opening = []) (argument : Argument) :
    literals (opening ++ argument.code ++ ")") =
      argument.text?.toList.map Text.codeLiteral := by
  cases argument with
  | literal text =>
      rw [Argument.code, literals_append (hopening.append (readsAlone_codeLiteral text)),
        literals_append hopening, hnone, literals_codeLiteral]
      rfl
  | parameter =>
      rw [List.append_assoc, literals_append hopening, hnone]
      rfl

theorem literals_onElement {base : Text} (hbase : IsPageName base) (element : Locator)
    (opening : Text) (hopening : ReadsAlone opening) (hnone : literals opening = [])
    (argument : Argument) :
    literals (element.code base ++ opening ++ argument.code ++ ")") =
      (element.texts ++ argument.text?.toList).map Text.codeLiteral := by
  have hassoc : element.code base ++ opening ++ argument.code ++ ")" =
      element.code base ++ (opening ++ argument.code ++ ")") := by
    simp only [List.append_assoc]
  rw [hassoc, literals_append (Locator.code_readsAlone hbase element),
    Locator.literals_code hbase, literals_argument opening hopening hnone, List.map_append]

theorem literals_code {base : Text} (hbase : IsPageName base) (call : Call) :
    literals (call.code base) = call.texts.map Text.codeLiteral := by
  have hclosed := fun element => Locator.code_readsAlone hbase element
  have helement := fun element => Locator.literals_code hbase element
  cases call with
  | goto url =>
      have hopening : ReadsAlone (base ++ ".goto(") := by cases hbase <;> exact fun _ => rfl
      have hnone : literals (base ++ ".goto(") = [] := by cases hbase <;> rfl
      exact literals_argument (base ++ ".goto(") hopening hnone (.literal url)
  | pause milliseconds =>
      have hopening : ∀ c ∈ base ++ ".wait_for_timeout(", c ≠ '"' := by cases hbase <;> decide
      apply literals_eq_nil
      intro c hc
      rw [code, List.mem_append, List.mem_append] at hc
      rcases hc with (hc | hc) | hc
      · exact hopening c hc
      · rintro rfl
        exact absurd (Name.isSafeText_number milliseconds _ hc) (by decide)
      · obtain rfl := List.mem_singleton.mp hc
        decide
  | fill element argument =>
      exact literals_onElement hbase element ".fill(" (fun _ => rfl) rfl argument
  | type element argument =>
      exact literals_onElement hbase element ".press_sequentially(" (fun _ => rfl) rfl argument
  | select element argument =>
      exact literals_onElement hbase element ".select_option(" (fun _ => rfl) rfl argument
  | expectVisible element =>
      have hopening : ReadsAlone "expect(" := fun _ => rfl
      rw [code, literals_append (hopening.append (hclosed element)), literals_append hopening,
        helement]
      exact List.append_nil _
  | click element | hover element | waitFor element =>
      rw [code, literals_append (hclosed element), helement]
      exact List.append_nil _

/-- A call in a method, with the parameter that its action needs, is that of the
step that calls the method with its data. -/
theorem substitute_code_onElement (action : Action) (element : Locator) (data : Text) :
    substitute (calledWith (if action.needsData then some (Text.codeLiteral data) else none))
        ((onElement action element .parameter).code "self.page") =
      (onElement action element (.literal data)).code "page" := by
  have hclosed := Locator.code_readsAlone .ofObject element
  -- The three calls with an argument differ in the name of the call alone.
  have hargument : ∀ opening : Text,
      (∀ value : Text, substitute (calledWith (some value)) (opening ++ "value" ++ ")") =
        opening ++ ((value ++ []) ++ (")" : Text))) →
      substitute (calledWith (some (Text.codeLiteral data)))
          (element.code "self.page" ++ opening ++ "value" ++ ")") =
        element.code "page" ++ opening ++ Text.codeLiteral data ++ ")" := by
    intro opening hfill
    have hassoc : element.code "self.page" ++ opening ++ "value" ++ ")" =
        element.code "self.page" ++ (opening ++ "value" ++ ")") := by
      simp only [List.append_assoc]
    rw [hassoc, substitute_append _ hclosed, Locator.substitute_code, hfill]
    simp only [List.append_assoc, List.append_nil]
  cases action with
  | fill => exact hargument ".fill(" fun _ => rfl
  | type => exact hargument ".press_sequentially(" fun _ => rfl
  | select => exact hargument ".select_option(" fun _ => rfl
  | expect =>
      have hopening : ReadsAlone "expect(" := fun _ => rfl
      change substitute (calledWith none)
        ("expect(" ++ element.code "self.page" ++ ").to_be_visible()") = _
      rw [substitute_append _ (hopening.append hclosed), substitute_append _ hopening,
        Locator.substitute_code]
      rfl
  | click =>
      change substitute (calledWith none) (element.code "self.page" ++ ".click()") = _
      rw [substitute_append _ hclosed, Locator.substitute_code]
      rfl
  | hover =>
      change substitute (calledWith none) (element.code "self.page" ++ ".hover()") = _
      rw [substitute_append _ hclosed, Locator.substitute_code]
      rfl
  | goto | wait =>
      change substitute (calledWith none) (element.code "self.page" ++ ".wait_for()") = _
      rw [substitute_append _ hclosed, Locator.substitute_code]
      rfl

end Call

end PageScript.Suite
