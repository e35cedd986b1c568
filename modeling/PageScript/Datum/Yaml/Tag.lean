import PageScript.Datum.Moment
import PageScript.Text.Digit
/-!
Tags, which tell what a node is to be read as.  A node without a tag has one by its
form: a plain text may look like a number, a date, a truth value or nothing.
-/

namespace PageScript.Datum.Yaml

inductive Tag where
  | null
  | bool
  | int
  | float
  | binary
  | moment
  /-- A list of entries. -/
  | pairs
  | set
  | text
  | list
  | map
  /-- The sign for the entries of other maps. -/
  | merge
  /-- The sign for a default value. -/
  | default
  /-- Any other tag; no value is read by it. -/
  | other
  deriving DecidableEq, Repr, Inhabited

namespace Tag

/-- What the names of the shared vocabulary begin with. -/
def vocabulary : Text := "tag:yaml.org,2002:"

/-- The tags of the shared vocabulary by their names. -/
def names : List (Text × Tag) :=
  [("null", .null), ("bool", .bool), ("int", .int), ("float", .float), ("binary", .binary),
   ("timestamp", .moment), ("omap", .pairs), ("pairs", .pairs), ("set", .set), ("str", .text),
   ("seq", .list), ("map", .map), ("merge", .merge), ("value", .default)]

def ofName (name : Text) : Tag :=
  if vocabulary.isPrefixOf name then
    (names.lookup (name.drop vocabulary.length)).getD .other
  else .other

/-! The forms of plain texts. -/

def nullWords : List Text := ["", "~", "null", "Null", "NULL"]

def boolWords : List Text :=
  ["yes", "Yes", "YES", "no", "No", "NO", "true", "True", "TRUE", "false", "False", "FALSE",
   "on", "On", "ON", "off", "Off", "OFF"]

def unsigned : Text → Text
  | .char '-' :: s => s
  | .char '+' :: s => s
  | s => s

/-- Characters of a class with underscores among them, at least one of either. -/
def areDigits (isDigit : CodePoint → Bool) (s : Text) : Bool :=
  !s.isEmpty && s.all fun c => isDigit c || c == '_'

/-- Digits with underscores among them, the first a digit. -/
def isCount (s : Text) : Bool := s.head?.any CodePoint.isDigit && areDigits CodePoint.isDigit s

def isOctalDigit (c : CodePoint) : Bool := 0x30 ≤ c.toNat && c.toNat ≤ 0x37

def isBinaryDigit (c : CodePoint) : Bool := c == '0' || c == '1'

def isHexDigit (c : CodePoint) : Bool := (Text.hexValue? c).isSome

/-- A number below sixty of one or two digits. -/
def isSixtieth : Text → Bool
  | [c] => c.isDigit
  | [c, d] => c.isDigit && c.toNat ≤ 0x35 && d.isDigit
  | _ => false

/-- Numbers with colons between them, all but the first below sixty. -/
def isSixties (s : Text) : Bool :=
  match Text.splitAt ':' s with
  | first :: second :: rest => isCount first && (second :: rest).all isSixtieth
  | _ => false

/-- Whether a text is an integer: binary or hexadecimal behind a mark, octal behind a
zero, decimal, or in sixties. -/
def isInt (s : Text) : Bool :=
  match unsigned s with
  | [.char '0'] => true
  | .char '0' :: .char 'b' :: digits => areDigits isBinaryDigit digits
  | .char '0' :: .char 'x' :: digits => areDigits isHexDigit digits
  | .char '0' :: digits => areDigits isOctalDigit digits
  | body => isCount body || isSixties body

/-- An exponent, or nothing. -/
def isExponent : Text → Bool
  | [] => true
  | c :: sign :: digits =>
      (c == 'e' || c == 'E') && (sign == '-' || sign == '+') && !digits.isEmpty &&
        digits.all CodePoint.isDigit
  | _ => false

def isFractionChar (c : CodePoint) : Bool := c.isDigit || c == '_'

/-- The words for infinity and for what is no number, from the point on. -/
def infinityWords : List Text := [".inf", ".Inf", ".INF"]
def nanWords : List Text := [".nan", ".NaN", ".NAN"]

/-- Whether a text is a number with a point. -/
def isFloat (s : Text) : Bool :=
  let body := unsigned s
  let whole := body.takeWhile (· != .char '.')
  let behind := (body.dropWhile (· != .char '.')).drop 1
  let hasExponent := isExponent (behind.dropWhile isFractionChar)
  if infinityWords.contains body || nanWords.contains s then true
  else if whole.length == body.length then false
  else if whole.isEmpty then
    s.length == body.length && behind.head?.any CodePoint.isDigit && hasExponent
  else (isCount whole && hasExponent) || (isSixties whole && behind.all isFractionChar)

/-- Whether a text is one of the signs that have no value of their own. -/
def isSign (s : Text) : Bool := s == "!" || s == "&" || s == "*"

/-- The tag that a text has by its form. -/
def ofForm (s : Text) : Tag :=
  if boolWords.contains s then .bool
  else if isFloat s then .float
  else if isInt s then .int
  else if s == "<<" then .merge
  else if nullWords.contains s then .null
  else if Moment.isWritten s then .moment
  else if s == "=" then .default
  else if isSign s then .other
  else .text

def withoutBreak (s : Text) : Text := if s.getLast? == some '\n' then s.dropLast else s

/-- The tag of a plain text.  One line break at the end of a text that is not empty
does not count. -/
def ofPlain (s : Text) : Tag :=
  match ofForm s, withoutBreak s with
  | .text, [] => .text
  | .text, s => ofForm s
  | tag, _ => tag

end Tag

end PageScript.Datum.Yaml
