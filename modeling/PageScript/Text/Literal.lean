import PageScript.Text.Digit
/-!
String literals: a text between double quotes, with a backslash before what
cannot stand there as itself.  Generated code keeps to ASCII; data files keep
every character that is no control.
-/

namespace PageScript.Text

/-- The letter that stands after a backslash for a character that has one. -/
def escapeLetter? (c : CodePoint) : Option CodePoint :=
  if c == '"' then some '"'
  else if c == '\\' then some '\\'
  else if c == '\n' then some 'n'
  else if c == '\r' then some 'r'
  else if c == '\t' then some 't'
  else if c == '\x08' then some 'b'
  else if c == '\x0c' then some 'f'
  else none

/-- The UTF-16 code units of a code point. -/
def units16 (n : Nat) : List Nat :=
  if n < 0x10000 then [n]
  else [0xD800 + (n - 0x10000) / 0x400, 0xDC00 + (n - 0x10000) % 0x400]

/-- A character inside a literal, where `keep` tells which characters without a
letter stand for themselves.  Every other one is written by its code units. -/
def escapedChar (keep : CodePoint → Bool) (c : CodePoint) : Text :=
  match escapeLetter? c with
  | some letter => ['\\', letter]
  | none =>
      if keep c then [c]
      else (units16 c.toNat).flatMap fun unit => "\\u" ++ hex 4 unit

def literalChars (keep : CodePoint → Bool) (s : Text) : Text :=
  "\"" ++ s.flatMap (escapedChar keep) ++ "\""

/-- The characters of ASCII that are no control. -/
def isPlainAscii (c : CodePoint) : Bool := 0x20 ≤ c.toNat && c.toNat ≤ 0x7E

/-- The characters from the space on. -/
def isNoControl (c : CodePoint) : Bool := 0x20 ≤ c.toNat

/-- A text as a string literal of generated code. -/
def codeLiteral (s : Text) : Text := literalChars isPlainAscii s

/-- A text as a string of a data file. -/
def dataLiteral (s : Text) : Text := literalChars isNoControl s

end PageScript.Text
