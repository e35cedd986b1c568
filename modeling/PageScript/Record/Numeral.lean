import PageScript.Text.Integer
/-!
Integers that a record holds as texts.  Blanks around the number are dropped,
then zeros and underscores in front of it, then zeros behind a point at its end,
then single underscores inside it; what is left has to be a plain integer.  A
minus sign may also follow the zeros.
-/

namespace PageScript.Record.Numeral

inductive Error where
  | malformed
  | tooLong
  deriving DecidableEq, Repr

/-- A digit other than zero. -/
def isCounting (c : CodePoint) : Bool := c.isDigit && c != '0'

/-- The text behind zeros and underscores, the last of which is `last`.  The
last of them stays if nothing or a point follows. -/
def behindZeros? (last : CodePoint) : Text → Option Text
  | [] => some [last]
  | c :: s =>
      if c == '0' || c == '_' then behindZeros? c s
      else if isCounting c || c == '-' then some (c :: s)
      else if c == '.' then some (last :: c :: s)
      else none

/-- The text without the zeros in front of the first digit that counts. -/
def withoutZeros? : Text → Option Text
  | [] => none
  | c :: s =>
      if c == '0' then behindZeros? c s
      else if isCounting c || c == '-' then some (c :: s)
      else none

/-- The text without a point and the zeros behind it. -/
def withoutZeroFraction (s : Text) : Text :=
  match s.dropWhile (· != .char '.') with
  | _ :: zeros => if zeros.all (· == .char '0') then s.takeWhile (· != .char '.') else s
  | [] => s

def hasDoubleUnderscore : Text → Bool
  | .char '_' :: .char '_' :: _ => true
  | _ :: s => hasDoubleUnderscore s
  | [] => false

/-- The text without its underscores, if each of them stands on its own between
other characters. -/
def withoutUnderscores (s : Text) : Text :=
  if s.head? == some (.char '_') || s.getLast? == some (.char '_') || hasDoubleUnderscore s then s
  else s.filter (· != .char '_')

/-- The text of a number without a sign, as plain as it gets. -/
def plain? (s : Text) : Option Text :=
  (withoutZeros? s).map fun s => withoutUnderscores (withoutZeroFraction s)

/-- The text of a number, as plain as it gets. -/
def signedPlain? : Text → Option Text
  | .char '+' :: .char '-' :: _ => none
  | .char '+' :: s => plain? s
  | .char '-' :: s => (plain? s).map (.char '-' :: ·)
  | s => plain? s

/-- Reads digits, the first of which is zero only if it is the only one.  More
than `most` digits at the beginning are too many, whatever follows them. -/
def digits (most : Nat) (s : Text) : Except Error Nat :=
  match s with
  | [.char '0'] => .ok 0
  | c :: _ =>
      if !isCounting c then .error .malformed
      else if most < (s.takeWhile CodePoint.isDigit).length then .error .tooLong
      else if s.all CodePoint.isDigit then .ok (Text.numberOf s)
      else .error .malformed
  | [] => .error .malformed

/-- Reads an integer.  The sign counts among the digits. -/
def read (text : Text) : Except Error Int :=
  match signedPlain? (Text.trimInteger text) with
  | none => .error .malformed
  | some (.char '-' :: s) => (digits (Text.maxDigits - 1) s).map fun n => -(n : Int)
  | some s => (digits Text.maxDigits s).map fun n => (n : Int)

end PageScript.Record.Numeral
