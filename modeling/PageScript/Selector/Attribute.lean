import PageScript.Text.Blank
import PageScript.Text.WordChar
/-!
Identifiers, the selectors made of them, and attribute selectors: a name in
square brackets, with or without a value.  In a value a backslash stands before
every quote and every backslash.
-/

namespace PageScript.Selector

def isLetter (c : CodePoint) : Bool :=
  let n := c.toNat
  (0x41 ≤ n && n ≤ 0x5A) || (0x61 ≤ n && n ≤ 0x7A)

/-- The characters of a name: word characters and the hyphen. -/
def isNameChar (c : CodePoint) : Bool := Text.isWordChar c || c == '-'

/-- An ASCII letter or an underscore, and then any name characters. -/
def isIdentifier : Text → Bool
  | c :: s => (isLetter c || c == '_') && s.all isNameChar
  | [] => false

/-- A number sign and an identifier. -/
def isIdForm : Text → Bool
  | .char '#' :: s => isIdentifier s
  | _ => false

/-- Any ASCII letters, and then one or more identifiers, each behind a full
stop. -/
def isClassForm (s : Text) : Bool :=
  match s.dropWhile isLetter with
  | .char '.' :: rest => (Text.splitAt '.' rest).all isIdentifier
  | _ => false

/-- A value as it stands between double quotes. -/
def escape (s : Text) : Text :=
  s.flatMap fun c : CodePoint => if c == '\\' || c == '"' then ['\\', c] else [c]

/-- Every backslash that stands before `c` is dropped; pairs are found from the
left and do not overlap. -/
def dropBackslashBefore (c : CodePoint) : Text → Text
  | .char '\\' :: d :: s =>
      if d == c then c :: dropBackslashBefore c s else .char '\\' :: dropBackslashBefore c (d :: s)
  | d :: s => d :: dropBackslashBefore c s
  | [] => []

/-- The value that stands between quotes: first the quotes lose their
backslashes, then the backslashes theirs. -/
def unescape (s : Text) : Text :=
  dropBackslashBefore '\\' (dropBackslashBefore '"' s)

/-- What an attribute selector says: the name of the attribute and, behind an
equals sign, its value as written, without the quotes around it. -/
structure Attribute where
  name : Text
  value? : Option Text
  deriving DecidableEq, Repr

/-- The text between two equal quotes of either kind; any other text as it is. -/
def unquote (s : Text) : Text :=
  match s with
  | quote :: rest =>
      if (quote == '"' || quote == '\'') && rest.getLast? == some quote then rest.dropLast
      else s
  | [] => []

/-- The written value, from behind the equals sign up to the closing bracket,
which is the last character of the selector. -/
def attributeValue? (s : Text) : Option Text :=
  if s.getLast? == some ']' then some (unquote (Text.trim s.dropLast)) else none

/-- Reads an attribute selector that has no blanks around it.  Blanks may stand
inside the brackets, around the name and around the value. -/
def attribute? : Text → Option Attribute
  | .char '[' :: s =>
      let body := Text.trimStart s
      let name := body.takeWhile isNameChar
      if name.isEmpty then none
      else
        match Text.trimStart (body.dropWhile isNameChar) with
        | [.char ']'] => some ⟨name, none⟩
        | .char '=' :: rest => (attributeValue? rest).map fun value => ⟨name, some value⟩
        | _ => none
  | _ => none

/-- The value that a selector of one attribute asks for. -/
def value? (selector : Text) : Option Text :=
  ((attribute? (Text.trim selector)).bind Attribute.value?).map unescape

/-- The selector of the elements whose attribute `name` is `value`. -/
def ofAttribute (name value : Text) : Text :=
  "[" ++ name ++ "=\"" ++ escape value ++ "\"]"

def ofTestId (value : Text) : Text := ofAttribute "data-testid" value

def ofAriaLabel (value : Text) : Text := ofAttribute "aria-label" value

/-- The selector of an element id: the short form if the id is an identifier,
one line end after it allowed, and the attribute form otherwise. -/
def ofId (value : Text) : Text :=
  if isIdentifier value || (value.getLast? == some '\n' && isIdentifier value.dropLast) then
    "#" ++ value
  else ofAttribute "id" value

end PageScript.Selector
