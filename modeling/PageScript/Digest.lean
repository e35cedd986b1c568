import PageScript.Text.Utf8

namespace PageScript.Digest

/-- The five words that a block of the message is mixed into. -/
structure Chain where
  a : UInt32
  b : UInt32
  c : UInt32
  d : UInt32
  e : UInt32

def Chain.start : Chain :=
  ⟨0x67452301, 0xEFCDAB89, 0x98BADCFE, 0x10325476, 0xC3D2E1F0⟩

/-- The word turned left by `n` bits, for `n` from 1 to 31. -/
def rotate (n x : UInt32) : UInt32 := (x <<< n) ||| (x >>> (32 - n))

/-- The words of a block and those derived from them, the latest first. -/
def schedule (block : List UInt32) : List UInt32 :=
  (List.range 64).foldl
    (fun w _ =>
      rotate 1 (w.getD 2 0 ^^^ w.getD 7 0 ^^^ w.getD 13 0 ^^^ w.getD 15 0) :: w)
    block.reverse

def round (s : Chain) (t : Nat) (w : UInt32) : Chain :=
  let (f, k) : UInt32 × UInt32 :=
    if t < 20 then ((s.b &&& s.c) ||| (~~~s.b &&& s.d), 0x5A827999)
    else if t < 40 then (s.b ^^^ s.c ^^^ s.d, 0x6ED9EBA1)
    else if t < 60 then ((s.b &&& s.c) ||| (s.b &&& s.d) ||| (s.c &&& s.d), 0x8F1BBCDC)
    else (s.b ^^^ s.c ^^^ s.d, 0xCA62C1D6)
  ⟨rotate 5 s.a + f + s.e + k + w, s.a, rotate 30 s.b, s.c, s.d⟩

def compress (s : Chain) (block : List UInt32) : Chain :=
  let r := (schedule block).reverse.zipIdx.foldl (fun r (w, t) => round r t w) s
  ⟨s.a + r.a, s.b + r.b, s.c + r.c, s.d + r.d, s.e + r.e⟩

/-- The items in groups of `n`; the last items, if fewer than `n`, are left out. -/
def groups {α : Type} (n : Nat) (items : List α) : List (List α) :=
  (items.foldl
    (fun (full, part) item =>
      if part.length + 1 = n then ((part ++ [item]) :: full, [])
      else (full, part ++ [item]))
    (([], []) : List (List α) × List α)).1.reverse

def bytes64 (n : Nat) : List UInt8 :=
  [56, 48, 40, 32, 24, 16, 8, 0].map fun shift => UInt8.ofNat (n >>> shift)

/-- The message with a one bit, zeros up to a whole block, and its length. -/
def pad (message : List UInt8) : List UInt8 :=
  message ++ 0x80 :: List.replicate ((119 - message.length % 64) % 64) 0 ++
    bytes64 (8 * message.length)

def word (bytes : List UInt8) : UInt32 :=
  bytes.foldl (fun w b => (w <<< 8) ||| b.toUInt32) 0

def chain (message : List UInt8) : Chain :=
  (groups 16 ((groups 4 (pad message)).map word)).foldl compress Chain.start

/-- The eight digits that stand for a text in a generated name. -/
def short (text : Text) : Text :=
  Text.hex 8 (chain (Text.utf8 text)).a.toNat

theorem length_short (text : Text) : (short text).length = 8 := by
  simp [short]

end PageScript.Digest
