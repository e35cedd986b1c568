import PageScript.Datum
import PageScript.Text.Integer
/-!
Reading data from JSON text.  Besides the standard, `NaN` and the two
infinities are numbers; of two equal keys the later one counts.  Integers of
too many digits and texts nested too deeply are refused as soon as the reader
reaches them.
-/

namespace PageScript.Datum.Json

inductive ReadError where
  | malformed
  | tooManyDigits (count : Nat)
  | tooDeep
  deriving DecidableEq, Repr

/-- The deepest nesting that is read where no other is given. -/
def maxDepth : Nat := 950

def isGap (c : CodePoint) : Bool := c == ' ' || c == '\t' || c == '\n' || c == '\r'

def skipGap (s : Text) : Text := s.dropWhile isGap

def unescapeLetter? (c : CodePoint) : Option CodePoint :=
  if c == '"' then some '"'
  else if c == '\\' then some '\\'
  else if c == '/' then some '/'
  else if c == 'b' then some '\x08'
  else if c == 'f' then some '\x0c'
  else if c == 'n' then some '\n'
  else if c == 'r' then some '\r'
  else if c == 't' then some '\t'
  else none

/-- A part of a string: a code point, or a code unit that is named by its
number. -/
inductive Piece where
  | point (c : CodePoint)
  | unit (n : Nat)
  deriving DecidableEq, Repr

/-- The parts of a string up to its closing quote, and the text behind it. -/
def pieces : Text → Option (List Piece × Text)
  | .char '"' :: s => some ([], s)
  | .char '\\' :: .char 'u' :: a :: b :: c :: d :: s =>
      match Text.ofHex? [a, b, c, d] with
      | some n => (pieces s).map fun (more, rest) => (.unit n :: more, rest)
      | none => none
  | .char '\\' :: c :: s =>
      match unescapeLetter? c with
      | some found => (pieces s).map fun (more, rest) => (.point found :: more, rest)
      | none => none
  | c :: s =>
      if c == '\\' || c.toNat < 0x20 then none
      else (pieces s).map fun (more, rest) => (.point c :: more, rest)
  | [] => none

/-- The text of some parts.  Two units that are the halves of a pair make one
character. -/
def joined : List Piece → Text
  | .unit high :: .unit low :: rest =>
      if Text.isHighSurrogate high && Text.isLowSurrogate low then
        .ofNat (Text.pairPoint high low) :: joined rest
      else .ofNat high :: joined (.unit low :: rest)
  | .unit n :: rest => .ofNat n :: joined rest
  | .point c :: rest => c :: joined rest
  | [] => []

def string (s : Text) : Except ReadError (Text × Text) :=
  match pieces s with
  | some (found, rest) => .ok (joined found, rest)
  | none => .error .malformed

/-- The whole part of a number and the text behind it: a zero, or digits that do
not begin with one. -/
def wholePart? (s : Text) : Option (Text × Text) :=
  match s with
  | .char '0' :: rest => some (['0'], rest)
  | _ =>
      let digits := s.takeWhile CodePoint.isDigit
      if digits.isEmpty then none else some (digits, s.dropWhile CodePoint.isDigit)

def fractionPart (s : Text) : Text × Text :=
  match s with
  | .char '.' :: rest =>
      let digits := rest.takeWhile CodePoint.isDigit
      if digits.isEmpty then ([], s) else (digits, rest.dropWhile CodePoint.isDigit)
  | _ => ([], s)

/-- The exponent behind an `e`, if there is one, and the text behind it. -/
def exponentPart (s : Text) : Option Int × Text :=
  match s with
  | c :: rest =>
      if c == 'e' || c == 'E' then
        let (negative, body) := match rest with
          | .char '-' :: body => (true, body)
          | .char '+' :: body => (false, body)
          | body => (false, body)
        let digits := body.takeWhile CodePoint.isDigit
        if digits.isEmpty then (none, s)
        else
          let n : Int := Text.numberOf digits
          (some (if negative then -n else n), body.dropWhile CodePoint.isDigit)
      else (none, s)
  | [] => (none, s)

/-- Reads a number from behind its sign.  A fraction or an exponent makes it a
floating-point number. -/
def number (negative : Bool) (s : Text) : Except ReadError (Datum × Text) :=
  match wholePart? s with
  | none => .error .malformed
  | some (whole, rest) =>
      let (fraction, rest) := fractionPart rest
      let (exponent?, rest) := exponentPart rest
      if fraction.isEmpty && exponent?.isNone then
        if Text.maxDigits < whole.length then .error (.tooManyDigits whole.length)
        else
          let n : Int := Text.numberOf whole
          .ok (.int (if negative then -n else n), rest)
      else
        let exponent := exponent?.getD 0 - fraction.length
        .ok (.float (.ofDecimal negative (Text.numberOf (whole ++ fraction)) exponent), rest)

def constants : List (Text × Datum) :=
  [("null", .null), ("true", .bool true), ("false", .bool false),
   ("NaN", .float .nan), ("Infinity", .float (.infinity false)),
   ("-Infinity", .float (.infinity true))]

/-- The word for a value that the text begins with, and the text behind it. -/
def constant? (s : Text) : Option (Datum × Text) :=
  (constants.find? fun (word, _) => word.isPrefixOf s).map fun (word, data) =>
    (data, s.drop word.length)

def scalar (s : Text) : Except ReadError (Datum × Text) :=
  match constant? s with
  | some found => .ok found
  | none =>
      match s with
      | .char '-' :: rest => number true rest
      | _ => number false s

mutual

/-- Reads a value that the text begins with; `depth` more lists and maps may
stand in each other. -/
def value (fuel depth : Nat) (s : Text) : Except ReadError (Datum × Text) :=
  match fuel with
  | 0 => .error .malformed
  | fuel + 1 =>
      match s with
      | .char '"' :: rest => do
          let (found, rest) ← string rest
          return (.text found, rest)
      | .char '[' :: rest =>
          match depth with
          | 0 => .error .tooDeep
          | depth + 1 =>
              match skipGap rest with
              | .char ']' :: rest => .ok (.list [], rest)
              | rest => do
                  let (found, rest) ← items fuel depth rest
                  return (.list found, rest)
      | .char '\x7b' :: rest =>
          match depth with
          | 0 => .error .tooDeep
          | depth + 1 =>
              match skipGap rest with
              | .char '\x7d' :: rest => .ok (.map [], rest)
              | rest => do
                  let (found, rest) ← entries fuel depth [] rest
                  return (.map found, rest)
      | _ => scalar s

/-- Reads the items of a list up to its closing bracket; there is at least one. -/
def items (fuel depth : Nat) (s : Text) :
    Except ReadError (List Datum × Text) :=
  match fuel with
  | 0 => .error .malformed
  | fuel + 1 => do
      let (item, rest) ← value fuel depth s
      match skipGap rest with
      | .char ']' :: rest => return ([item], rest)
      | .char ',' :: rest =>
          let (more, rest) ← items fuel depth (skipGap rest)
          return (item :: more, rest)
      | _ => .error .malformed

/-- Reads the entries of a map up to its closing brace and puts them to those
that were read before; there is at least one. -/
def entries (fuel depth : Nat) (before : List (Text × Datum)) (s : Text) :
    Except ReadError (List (Text × Datum) × Text) :=
  match fuel with
  | 0 => .error .malformed
  | fuel + 1 =>
      match s with
      | .char '"' :: rest => do
          let (key, rest) ← string rest
          match skipGap rest with
          | .char ':' :: rest =>
              let (item, rest) ← value fuel depth (skipGap rest)
              let found := put key item before
              match skipGap rest with
              | .char '\x7d' :: rest => return (found, rest)
              | .char ',' :: rest => entries fuel depth found (skipGap rest)
              | _ => .error .malformed
          | _ => .error .malformed
      | _ => .error .malformed

end

/-- Reads a text that holds one value and nothing else but blanks, with at most
`depth` lists and maps in each other.  A value of `n` characters takes at most
`2 * n` calls in each other. -/
def read (depth : Nat) (s : Text) : Except ReadError Datum := do
  let (data, rest) ← value (2 * s.length + 2) depth (skipGap s)
  if (skipGap rest).isEmpty then return data else .error .malformed

end PageScript.Datum.Json
