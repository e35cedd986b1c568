import PageScript.Binary64
import PageScript.Datum
import PageScript.Datum.Yaml.Tag
import PageScript.Datum.Yaml.Token
import PageScript.Text.Lower
/-!
The values of texts, by their tags.  A tag that is written counts even if the text
has another form, so each tag has its own way to read any text.
-/

namespace PageScript.Datum.Yaml

/-! Truth values. -/

def trueWords : List Text := ["yes", "true", "on"]

def falseWords : List Text := ["no", "false", "off"]

/-- The truth value of a word, in capitals or not. -/
def truth (s : Text) : Except Error Bool :=
  let word := Text.lower s
  if trueWords.contains word then .ok true
  else if falseWords.contains word then .ok false
  else .error (.noTruth word)

/-! Numbers. -/

def withoutUnderscores (s : Text) : Text := s.filter (· != .char '_')

def integerIn (base : Nat) (s : Text) : Except Error Int :=
  (Text.integerIn base s).mapError .noInteger

/-- Integers that each count sixty times as much as the next. -/
def sixties (parts : List Int) : Int := parts.foldl (fun n part => 60 * n + part) 0

def unsignedInteger (s : Text) : Except Error Int :=
  match s with
  | [] => .error .emptyNumber
  | [.char '0'] => .ok 0
  | .char '0' :: .char 'b' :: digits => integerIn 2 digits
  | .char '0' :: .char 'x' :: digits => integerIn 16 digits
  | .char '0' :: _ => integerIn 8 s
  | _ =>
      if s.contains ':' then sixties <$> (Text.splitAt ':' s).mapM (integerIn 10)
      else integerIn 10 s

def hasMinus (s : Text) : Bool := s.head? == some '-'

def integer (s : Text) : Except Error Int := do
  let s := withoutUnderscores s
  let n ← unsignedInteger (Tag.unsigned s)
  return if hasMinus s then -n else n

/-- A number in decimal places, by its digits and the place of the last one. -/
structure Decimal where
  digits : Nat
  exponent : Int
  deriving DecidableEq, Repr

/-- Reads digits of any script, and gives how many there are. -/
def spanDecimals (s : Text) : Text × Text := s.span Text.isDecimal

/-- The exponent that a text consists of: a letter, digits that may have a sign in front
of them, or nothing. -/
def exponent? : Text → Option Int
  | [] => some 0
  | c :: s =>
      let digits := Tag.unsigned s
      if c == 'e' && !digits.isEmpty && digits.all Text.isDecimal then
        let n : Int := Text.numberOf digits
        some (if hasMinus s then -n else n)
      else none

/-- The decimal number that a text in small letters writes without a sign.  There are
digits in front of the point or behind it. -/
def decimal? (s : Text) : Option Decimal :=
  let (whole, rest) := spanDecimals s
  let (fraction, rest) := match rest with
    | .char '.' :: rest => spanDecimals rest
    | rest => ([], rest)
  if whole.isEmpty && fraction.isEmpty then none
  else (exponent? rest).map fun exponent =>
    ⟨Text.numberOf (whole ++ fraction), exponent - fraction.length⟩

/-- The floating-point number that a text in small letters writes.  Blanks around it
are dropped. -/
def floatOf (s : Text) : Except Error Binary64 :=
  let trimmed := Text.trimInteger s
  let body := Tag.unsigned trimmed
  if body == "inf" || body == "infinity" then .ok (.infinity (hasMinus trimmed))
  else if body == "nan" then .ok .nan
  else
    match decimal? body with
    | some decimal => .ok (.ofDecimal (hasMinus trimmed) decimal.digits decimal.exponent)
    | none => .error (.noFloat s)

/-- The sum of parts, the last one first, each of which counts sixty times as much as
the one before it; the first one counts `unit`. -/
def floatSixties (sum : Binary64) (unit : Nat) : List Binary64 → Except Error Binary64
  | [] => .ok sum
  | part :: parts =>
      let weight := Binary64.ofDecimal false unit 0
      if weight.isInfinite then .error .hugeSixties
      else floatSixties (sum.add (part.mul weight)) (60 * unit) parts

/-- The floating-point number of a text in small letters without a sign. -/
def unsignedFloat (s : Text) : Except Error Binary64 :=
  if s == ".inf" then .ok (.infinity false)
  else if s == ".nan" then .ok .nan
  else if s.contains ':' then do
    let parts ← (Text.splitAt ':' s).mapM floatOf
    floatSixties ⟨0⟩ 1 parts.reverse
  else floatOf s

def float (s : Text) : Except Error Binary64 :=
  match Text.lower (withoutUnderscores s) with
  | [] => .error .emptyNumber
  | s => do
      let x ← unsignedFloat (Tag.unsigned s)
      return if hasMinus s then x.negated else x

/-! Bytes. -/

/-- The characters for six bits each, in order. -/
def sextetDigits : Text := "ABCDEFGHIJKLMNOPQRSTUVWXYZabcdefghijklmnopqrstuvwxyz0123456789+/"

def sextet? (c : CodePoint) : Option Nat := sextetDigits.idxOf? c

/-- The bytes of characters for six bits each, where `bits` holds what is left of the
characters before, and `count` of them have been read since the last whole group
of four.  Other characters count as none; the sign that fills up the last group
ends the text once it is filled up, and counts as none before. -/
def bytesFrom (bits count filling : Nat) : Text → Except Error (List UInt8)
  | [] => if count = 0 then .ok [] else .error .malformed
  | c :: s =>
      if c == '=' then
        if 2 ≤ count && 4 ≤ count + filling + 1 then .ok []
        else bytesFrom bits count (filling + 1) s
      else
        match sextet? c with
        | none => bytesFrom bits count filling s
        | some n =>
            let word := 64 * bits + n
            if count = 0 then bytesFrom n 1 0 s
            else if count = 1 then (UInt8.ofNat (word / 16) :: ·) <$> bytesFrom (word % 16) 2 0 s
            else if count = 2 then (UInt8.ofNat (word / 4) :: ·) <$> bytesFrom (word % 4) 3 0 s
            else (UInt8.ofNat word :: ·) <$> bytesFrom 0 0 0 s

def bytes (s : Text) : Except Error (List UInt8) :=
  if s.all fun c => c.toNat < 0x80 then bytesFrom 0 0 0 s else .error .malformed

/-! Moments. -/

def moment (s : Text) : Except Error Datum :=
  match (Moment.ofText? s).or (Moment.ofText? (Tag.withoutBreak s)) with
  | none => .error .noMomentForm
  | some found => do
      found.check.mapError .noMoment
      return .moment s

def scalar (s : Text) : Tag → Except Error Datum
  | .null => .ok .null
  | .bool => .bool <$> truth s
  | .int => .int <$> integer s
  | .float => .float <$> float s
  | .binary => .bytes <$> bytes s
  | .moment => moment s
  | .text => .ok (.text s)
  | _ => .error .malformed

end PageScript.Datum.Yaml
