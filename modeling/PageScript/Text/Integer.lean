import PageScript.Text.Blank
import PageScript.Text.Digit
import PageScript.Text.Quoted
/-!
Integers written as text, in the bases two, eight, ten and sixteen.  A number
may have a sign, the mark of its base, digits of any script, and single
underscores between digits; blanks around it are dropped.  Numbers in base ten
of more than 4300 digits are refused.
-/

namespace PageScript.Text

inductive IntegerError where
  /-- The text, quoted in the message, is no integer in the base. -/
  | malformed (base : Nat) (text : Text)
  /-- The integer has more digits than are read. -/
  | tooManyDigits (count : Nat)
  deriving DecidableEq, Repr

def maxDigits : Nat := 4300

/-- A message shows at most 200 characters of the quoted text. -/
def IntegerError.message : IntegerError → Text
  | .malformed base text =>
      "invalid literal for int() with base " ++ toString base ++ ": " ++ (quoted text).take 200
  | .tooManyDigits count =>
      "Exceeds the limit (4300 digits) for integer string conversion: value has " ++
        toString count ++ " digits; use sys.set_int_max_str_digits() to increase the limit"

/-- The blanks that may stand around an integer: all but the information
separators. -/
def isIntegerBlank (c : CodePoint) : Bool := isBlank c && !(28 ≤ c.toNat && c.toNat ≤ 31)

def trimInteger (s : Text) : Text :=
  ((s.dropWhile isIntegerBlank).reverse.dropWhile isIntegerBlank).reverse

/-- The value of a digit of a base: a decimal digit of any script, or a letter. -/
def digitIn? (base : Nat) (c : CodePoint) : Option Nat :=
  ((digitValue? c).or (hexValue? c)).filter (· < base)

def isDigitIn (base : Nat) (c : CodePoint) : Bool := (digitIn? base c).isSome

/-- The number that digits of a base write, the first digit counting most. -/
def numberIn (base : Nat) (digits : Text) : Nat :=
  digits.foldl (fun n c => base * n + (digitIn? base c).getD 0) 0

/-- The longest beginning of the text that holds digits and single underscores
between them; the text behind it; and whether an underscore is out of place. -/
def spanDigits (base : Nat) (afterDigit : Bool) : Text → Text × Text × Bool
  | [] => ([], [], false)
  | c :: s =>
      if isDigitIn base c then
        let (digits, rest, bad) := spanDigits base true s
        (c :: digits, rest, bad)
      else if c == '_' then
        match s with
        | d :: _ =>
            if afterDigit && isDigitIn base d then spanDigits base false s
            else ([], c :: s, true)
        | [] => ([], c :: s, true)
      else ([], c :: s, false)

/-- The letters that mark a base behind a zero. -/
def baseLetters (base : Nat) : Text :=
  if base = 16 then "xX" else if base = 8 then "oO" else if base = 2 then "bB" else []

/-- The text without the mark of its base, behind which one underscore may stand. -/
def dropBaseMark (base : Nat) (s : Text) : Text :=
  match s with
  | .char '0' :: letter :: rest =>
      if (baseLetters base).contains letter then
        match rest with
        | .char '_' :: rest => rest
        | rest => rest
      else s
  | s => s

/-- The integer that a text writes in a base. -/
def integerIn (base : Nat) (text : Text) : Except IntegerError Int :=
  let (negative, body) := match trimInteger text with
    | .char '-' :: rest => (true, rest)
    | .char '+' :: rest => (false, rest)
    | rest => (false, rest)
  let (digits, rest, bad) := spanDigits base false (dropBaseMark base body)
  if bad || digits.isEmpty then .error (.malformed base text)
  else if base = 10 && maxDigits < digits.length then .error (.tooManyDigits digits.length)
  else if rest.isEmpty then
    let n : Int := numberIn base digits
    .ok (if negative then -n else n)
  else .error (.malformed base text)

def integer (text : Text) : Except IntegerError Int := integerIn 10 text

end PageScript.Text
