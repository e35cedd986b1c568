import PageScript.Selector.Kind
import PageScript.Suite.Options
import PageScript.Text.Literal

namespace PageScript.Suite

inductive Locator where
  | selector (target : Text)
  /-- By a role and, if there is one, an accessible name. -/
  | role (role : Text) (name? : Option Text)
  /-- By visible text, or by visible text that is exactly the given one. -/
  | text (shown : Text) (exact : Bool)
  | testId (id : Text)
  | label (name : Text)
  deriving DecidableEq, Repr

namespace Locator

/-- The locator of a role selector: the role it names, or else the value of the
role attribute. -/
def ofRole (target : Text) : Locator :=
  let found? := Selector.role? target
  match Text.nonempty? (found?.map (·.role)) <|> Text.nonempty? (Selector.value? target) with
  | some found => .role found (Text.nonempty? (found?.bind (·.name?)))
  | none => .selector target

/-- The locator of a text selector.  A text between equal quotes is meant
exactly. -/
def ofText (target : Text) : Locator :=
  let s := (Text.trim target).drop Selector.textMark.length
  let inner := Selector.unquote s
  if inner.length < s.length then .text inner true
  else .text s false

/-- The locator of a target that is written in the given style. -/
def ofTarget (style : Style) (target : Text) : Locator :=
  match style with
  | .locator => .selector target
  | .roleFirst =>
      match Selector.kind target with
      | .role => ofRole target
      | .text => ofText target
      | .testId =>
          match Text.nonempty? (Selector.value? target) with
          | some id => .testId id
          | none => .selector target
      | .ariaLabel =>
          match Text.nonempty? (Selector.value? target) with
          | some name => .label name
          | none => .selector target
      | .id | .className | .attribute | .css => .selector target

/-- The code of a locator on the page that `base` names. -/
def code (base : Text) : Locator → Text
  | .selector target => base ++ ".locator(" ++ Text.codeLiteral target ++ ")"
  | .role found none => base ++ ".get_by_role(" ++ Text.codeLiteral found ++ ")"
  | .role found (some name) =>
      base ++ ".get_by_role(" ++ Text.codeLiteral found ++ ", name=" ++ Text.codeLiteral name ++ ")"
  | .text shown true => base ++ ".get_by_text(" ++ Text.codeLiteral shown ++ ", exact=True)"
  | .text shown false => base ++ ".get_by_text(" ++ Text.codeLiteral shown ++ ")"
  | .testId id => base ++ ".get_by_test_id(" ++ Text.codeLiteral id ++ ")"
  | .label name => base ++ ".get_by_label(" ++ Text.codeLiteral name ++ ")"

end Locator

end PageScript.Suite
