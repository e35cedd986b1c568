import PageScript.Datum.Yaml.Position

namespace PageScript.Datum.Yaml

/-- What a letter behind a backslash stands for. -/
def escapes : List (CodePoint × CodePoint) :=
  [('0', '\x00'), ('a', '\x07'), ('b', '\x08'), ('t', '\t'), ('\t', '\t'), ('n', '\n'),
   ('v', '\x0b'), ('f', '\x0c'), ('r', '\r'), ('e', '\x1b'), (' ', ' '), ('"', '"'),
   ('\\', '\\'), ('/', '/'), ('N', '\u0085'), ('_', '\u00A0'), ('L', '\u2028'),
   ('P', '\u2029')]

/-- How many hexadecimal digits follow a letter that names a code point by them. -/
def escapeWidth? (c : CodePoint) : Option Nat :=
  if c == 'x' then some 2 else if c == 'u' then some 4 else if c == 'U' then some 8 else none

def codePoint (n : Nat) : Except Error CodePoint :=
  if n < 0x110000 then .ok (.ofNat n)
  else if n < 0x80000000 then .error .noCodePoint
  else .error .hugeCodePoint

/-- The characters inside quotes that stand for more than themselves. -/
def endsPiece (c : CodePoint) : Bool :=
  c == '\'' || c == '"' || c == '\\' || isSpacing c || isBreak c

namespace Scan

def namedCodePoint (width : Nat) : Scan CodePoint := do
  let digits := (← rest).take width
  match Text.ofHex? digits with
  | some n =>
      guard fun _ => digits.length == width
      let found ← liftM (codePoint n)
      skip width
      return found
  | none => fail

/-- Reads the breaks of empty lines inside a quoted text, and the blanks in front of
the next line; no document ends there. -/
def quotedBreaks : Scan Text := do
  let found ← fold isSpacing
  guard fun _ => !found.separated
  return found.breaks

/-- Reads an escape from behind its backslash.  A line break that is escaped joins
two lines. -/
def escape : Scan Text := do
  match ← rest with
  | [] => fail
  | c :: _ =>
      skip 1
      match escapes.lookup c with
      | some found => return [found]
      | none =>
          match escapeWidth? c with
          | some width => return [← namedCodePoint width]
          | none => if isBreak c then quotedBreaks else fail

def quotedSpacing : Scan Text := do
  let blanks ← takeWhile isSpacing
  match (← rest).head? with
  | none => fail
  | some c =>
      if isBreak c then
        skip 1
        return folded c (← quotedBreaks)
      else return blanks

/-- Reads a piece of a quoted text, unless the text ends here. -/
def quotedPiece? (double : Bool) : Scan (Option Text) := do
  match ← rest with
  | [] => fail
  | .char '\'' :: .char '\'' :: _ =>
      skip 2
      return some (if double then "''" else "'")
  | c :: _ =>
      if c == (if double then '"' else '\'') then
        skip 1
        return none
      else if double && c == '\\' then
        skip 1
        return some (← escape)
      else if isSpacing c || isBreak c then return some (← quotedSpacing)
      else if endsPiece c then
        skip 1
        return some [c]
      else return some (← takeWhile fun c => !endsPiece c)

/-- Reads at most `fuel` more pieces of a quoted text, where those before are given
with the last one first. -/
def quotedPieces (double : Bool) (before : List Text) : Nat → Scan Text
  | 0 => fail
  | fuel + 1 => do
      match ← quotedPiece? double with
      | none => return before.reverse.flatten
      | some piece => quotedPieces double (piece :: before) fuel

def quoted (double : Bool) (fuel : Nat) : Scan Text := do
  skip 1
  quotedPieces double [] fuel

end Scan

end PageScript.Datum.Yaml
