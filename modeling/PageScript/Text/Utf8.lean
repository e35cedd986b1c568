import PageScript.Text.Digit
/-!
Texts as bytes, in UTF-8.  Only characters have bytes there: a text with
surrogates can be handled, but neither digested nor written to a file.
-/

namespace PageScript.Text

/-- The bytes of a code point.  A surrogate has the three bytes that its number
would have. -/
def bytesOf : CodePoint → List UInt8
  | .char c => String.utf8EncodeChar c
  | .surrogate index =>
      [0xED, UInt8.ofNat (0xA0 + index / 0x40), UInt8.ofNat (0x80 + index % 0x40)]

def utf8 (s : Text) : List UInt8 := s.flatMap bytesOf

/-- The text of some bytes, if they are those of characters. -/
def ofUtf8? (bytes : List UInt8) : Option Text :=
  (String.fromUTF8? ⟨bytes.toArray⟩).map ofString

/-- Why a text cannot be written: the first surrogate in it, and the places of
the first and the last of the run of surrogates that begins there. -/
structure Unencodable where
  surrogate : CodePoint
  first : Nat
  last : Nat
  deriving DecidableEq, Repr

/-- The first run of surrogates in a text whose first code point has the place
`i`. -/
def unencodableFrom? (i : Nat) : Text → Option Unencodable
  | [] => none
  | c :: s =>
      if c.isSurrogate then some ⟨c, i, i + (s.takeWhile CodePoint.isSurrogate).length⟩
      else unencodableFrom? (i + 1) s

def unencodable? (s : Text) : Option Unencodable := unencodableFrom? 0 s

def Unencodable.message (found : Unencodable) : Text :=
  "'utf-8' codec can't encode character" ++
    (if found.first = found.last then
      " '\\u" ++ hex 4 found.surrogate.toNat ++ "' in position " ++ toString found.first
    else "s in position " ++ toString found.first ++ "-" ++ toString found.last) ++
    ": surrogates not allowed"

theorem unencodableFrom?_eq_none_iff {i : Nat} {s : Text} :
    unencodableFrom? i s = none ↔ ∀ c ∈ s, c.isSurrogate = false := by
  induction s generalizing i with
  | nil => simp [unencodableFrom?]
  | cons c s ih => cases h : c.isSurrogate <;> simp [unencodableFrom?, h, ih]

end PageScript.Text
