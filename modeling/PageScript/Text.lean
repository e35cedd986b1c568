/-!
Texts.  A text is a sequence of code points.  Most of them are characters, but
data files can also name surrogates one by one, and a surrogate without a
partner is no character.
-/

namespace PageScript

/-- A code point: a character, or a surrogate that stands on its own, by its
place among the surrogates. -/
inductive CodePoint where
  | char (c : Char)
  | surrogate (index : Fin 0x800)
  deriving DecidableEq, Repr, Inhabited

instance : Coe Char CodePoint := ⟨.char⟩

abbrev Text := List CodePoint

namespace CodePoint

def toNat : CodePoint → Nat
  | char c => c.toNat
  | surrogate index => 0xD800 + index

/-- The code point of a number, for numbers below 0x110000. -/
def ofNat (n : Nat) : CodePoint :=
  if h : 0xD800 ≤ n ∧ n < 0xE000 then surrogate ⟨n - 0xD800, by omega⟩ else char (Char.ofNat n)

def isSurrogate : CodePoint → Bool
  | char _ => false
  | surrogate _ => true

def isDigit : CodePoint → Bool
  | char c => c.isDigit
  | surrogate _ => false

/-- The capital of a letter of ASCII, and any other code point itself. -/
def toUpper : CodePoint → CodePoint
  | char c => char c.toUpper
  | surrogate index => surrogate index

/-- The small letter of a capital of ASCII, and any other code point itself. -/
def toLower : CodePoint → CodePoint
  | char c => char c.toLower
  | surrogate index => surrogate index

end CodePoint

namespace Text

def ofString (s : String) : Text := s.toList.map .char

/-- A text that may be missing, unless it is empty. -/
def nonempty? (text? : Option Text) : Option Text := text?.filter (!·.isEmpty)

/-- The parts of a text between the places where `c` stands. -/
def splitAt (c : CodePoint) (s : Text) : List Text := s.splitOnP (· == c)

def isHighSurrogate (unit : Nat) : Bool := 0xD800 ≤ unit && unit ≤ 0xDBFF

def isLowSurrogate (unit : Nat) : Bool := 0xDC00 ≤ unit && unit ≤ 0xDFFF

/-- The number of the character that a pair stands for. -/
def pairPoint (high low : Nat) : Nat := 0x10000 + (high - 0xD800) * 0x400 + (low - 0xDC00)

/-- A set of code points: the first and the last of each range. -/
abbrev Ranges := List (Nat × Nat)

def Ranges.has (set : Ranges) (n : Nat) : Bool :=
  set.any fun range => range.1 ≤ n && n ≤ range.2

theorem Ranges.has_iff {set : Ranges} {n : Nat} :
    set.has n = true ↔ ∃ range ∈ set, range.1 ≤ n ∧ n ≤ range.2 := by
  simp [Ranges.has]

end Text

instance : Coe String Text := ⟨Text.ofString⟩

end PageScript
