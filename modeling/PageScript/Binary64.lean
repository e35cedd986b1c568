import PageScript.Text

namespace PageScript

/-- A floating-point number of double precision, by its bits. -/
structure Binary64 where
  bits : UInt64
  deriving DecidableEq, Repr

namespace Binary64

/-- The quotient rounded to the nearest whole number, a half to the even one. -/
def roundDiv (num den : Nat) : Nat :=
  let q := num / den
  let r := num % den
  if 2 * r < den then q else if den < 2 * r then q + 1 else q + q % 2

def infinityBits : Nat := 0x7FF0000000000000

/-- The exponent of the last of fifty-three digits of `num / den`, and at least
that of the smallest number. -/
def scaleOf (num den : Nat) : Int :=
  let guess : Int := (num.log2 : Int) - (den.log2 : Int) - 52
  let reached : Bool :=
    if 0 ≤ guess then den <<< (52 + guess.toNat) ≤ num
    else den <<< 52 ≤ num <<< (-guess).toNat
  let scale := if reached then guess else guess - 1
  if scale < -1074 then -1074 else scale

/-- The bits of the nearest number to `num / den`; from a half beyond the
largest number on it is infinity. -/
def nearestBits (num den : Nat) : Nat :=
  let scale := scaleOf num den
  let digits :=
    if 0 ≤ scale then roundDiv num (den <<< scale.toNat)
    else roundDiv (num <<< (-scale).toNat) den
  let bits := (scale + 1074).toNat * 0x10000000000000 + digits
  if infinityBits ≤ bits then infinityBits else bits

def signed (negative : Bool) (bits : Nat) : Binary64 :=
  ⟨UInt64.ofNat (if negative then 0x8000000000000000 + bits else bits)⟩

/-- The nearest number to `digits` times ten to the power `exponent`. -/
def ofDecimal (negative : Bool) (digits : Nat) (exponent : Int) : Binary64 :=
  let size : Int := (Nat.toDigits 10 digits).length + exponent
  let bits :=
    if digits = 0 ∨ size < -330 then 0
    else if 310 < size then infinityBits
    else if 0 ≤ exponent then nearestBits (digits * Nat.pow 10 exponent.toNat) 1
    else nearestBits digits (Nat.pow 10 (-exponent).toNat)
  signed negative bits

def nan : Binary64 := ⟨0x7FF8000000000000⟩

def infinity (negative : Bool) : Binary64 := signed negative infinityBits

def isNegative (x : Binary64) : Bool := 0x8000000000000000 ≤ x.bits.toNat

def magnitude (x : Binary64) : Nat := x.bits.toNat % 0x8000000000000000

def isNaN (x : Binary64) : Bool := infinityBits < x.magnitude

def isInfinite (x : Binary64) : Bool := x.magnitude == infinityBits

/-- The size of a finite number as `digits` times two to the power `scale`. -/
def parts (x : Binary64) : Nat × Int :=
  let exponent := x.magnitude / 0x10000000000000
  let fraction := x.magnitude % 0x10000000000000
  if exponent = 0 then (fraction, -1074)
  else (0x10000000000000 + fraction, (exponent : Int) - 1075)

def ratio (x : Binary64) : Nat × Nat :=
  let (digits, scale) := x.parts
  if 0 ≤ scale then (digits <<< scale.toNat, 1) else (digits, 1 <<< (-scale).toNat)

/-- The whole number that a finite number without a fraction stands for. -/
def toInt? (x : Binary64) : Option Int :=
  let (num, den) := x.ratio
  if infinityBits ≤ x.magnitude || num % den != 0 then none
  else
    let n : Int := num / den
    some (if x.isNegative then -n else n)

def sub (x y : Binary64) : Binary64 := ⟨(Float.ofBits x.bits - Float.ofBits y.bits).toBits⟩

def add (x y : Binary64) : Binary64 := ⟨(Float.ofBits x.bits + Float.ofBits y.bits).toBits⟩

def mul (x y : Binary64) : Binary64 := ⟨(Float.ofBits x.bits * Float.ofBits y.bits).toBits⟩

/-- The number with the other sign; what is no number has none. -/
def negated (x : Binary64) : Binary64 := if x.isNaN then x else signed (!x.isNegative) x.magnitude

/-- Digits of hundredths with a point before the last two. -/
def hundredths (n : Nat) : Text :=
  let low := n % 100
  toString (n / 100) ++ "." ++ toString (low / 10) ++ toString (low % 10)

/-- The number with two places, a half going to the even hundredth. -/
def twoPlaces (x : Binary64) : Text :=
  if x.isNaN then "nan"
  else
    let size : Text :=
      if x.isInfinite then "inf"
      else
        let (num, den) := x.ratio
        hundredths (roundDiv (100 * num) den)
    if x.isNegative then "-" ++ size else size

end Binary64

end PageScript
