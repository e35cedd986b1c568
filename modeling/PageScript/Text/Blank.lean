import PageScript.Text

namespace PageScript.Text

/-- The characters that separate words: the Unicode white space, and the four
information separators U+001C to U+001F.  The zero-width characters and the
byte-order mark are not blank. -/
def isBlank (c : CodePoint) : Bool :=
  let n := c.toNat
  (9 ≤ n && n ≤ 13) || (28 ≤ n && n ≤ 32) || n == 0x85 || n == 0xA0 || n == 0x1680 ||
    (0x2000 ≤ n && n ≤ 0x200A) || n == 0x2028 || n == 0x2029 || n == 0x202F ||
    n == 0x205F || n == 0x3000

theorem isBlank_of_isWhitespace {c : Char} (h : c.isWhitespace = true) : isBlank c = true := by
  simp only [Char.isWhitespace, Bool.or_eq_true, decide_eq_true_eq] at h
  rcases h with ((rfl | rfl) | rfl) | rfl <;> decide

def trimStart (s : Text) : Text := s.dropWhile isBlank

def trimEnd (s : Text) : Text := (s.reverse.dropWhile isBlank).reverse

def trim (s : Text) : Text := trimEnd (trimStart s)

/-- The words of `s`, where `word` holds, last character first, what has been
read of the word that `s` goes on with. -/
def wordsAfter (word : Text) : Text → List Text
  | [] => if word.isEmpty then [] else [word.reverse]
  | c :: s =>
      if isBlank c then
        if word.isEmpty then wordsAfter [] s else word.reverse :: wordsAfter [] s
      else wordsAfter (c :: word) s

/-- The words of a text: its longest runs of characters that are not blank. -/
def words (s : Text) : List Text := wordsAfter [] s

/-- The words of a text with a single space between each two. -/
def collapse (s : Text) : Text := (" " : Text).intercalate (words s)

/-- A text is blank when it holds nothing but blank characters. -/
def isBlankText (s : Text) : Bool := s.all isBlank

end PageScript.Text
