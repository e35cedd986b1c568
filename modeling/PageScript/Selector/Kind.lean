import PageScript.Selector.Attribute
import PageScript.Selector.Role

namespace PageScript.Selector

inductive Kind where
  | testId
  | ariaLabel
  | role
  | text
  | id
  | className
  | attribute
  | css
  deriving DecidableEq, Repr

def Kind.label : Kind → Text
  | .testId => "test-id"
  | .ariaLabel => "aria-label"
  | .role => "role"
  | .text => "text"
  | .id => "id"
  | .className => "class"
  | .attribute => "attribute"
  | .css => "css"

/-- The kind of an attribute selector: the lower-cased name decides. -/
def Kind.ofAttributeName (name : Text) : Kind :=
  let name := name.map CodePoint.toLower
  if name == "data-testid" then .testId
  else if name == "aria-label" then .ariaLabel
  else if name == "role" then .role
  else .attribute

/-- The kind of a selector without blanks around it. -/
def Kind.ofTrimmed (s : Text) : Kind :=
  if roleMark.isPrefixOf s then .role
  else if textMark.isPrefixOf s then .text
  else
    match attribute? s with
    | some found => Kind.ofAttributeName found.name
    | none =>
        if isIdForm s then .id
        else if isClassForm s then .className
        else .css

def kind (selector : Text) : Kind := Kind.ofTrimmed (Text.trim selector)

/-- The kinds that do not hang on the layout of the page. -/
def Kind.isStable : Kind → Bool
  | .testId | .ariaLabel | .role | .text => true
  | .id | .className | .attribute | .css => false

/-- Whether a selector is worth keeping as it is. -/
def isStable (selector : Text) : Bool := (kind selector).isStable

end PageScript.Selector
