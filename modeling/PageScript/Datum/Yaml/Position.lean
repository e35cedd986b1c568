import PageScript.Datum.Yaml.Break
import PageScript.Datum.Yaml.Token

namespace PageScript.Datum.Yaml

/-- A place in a text, by the text from there on and by what lies before it. -/
structure Position where
  rest : Text
  index : Nat
  line : Nat
  column : Nat
  deriving DecidableEq, Repr

namespace Position

/-- The mark that tells the order of bytes; it takes no column. -/
def byteOrderMark : CodePoint := '\uFEFF'

def next (position : Position) : Position :=
  match position.rest with
  | [] => position
  | c :: rest =>
      { rest
        index := position.index + 1
        line := if isBreak c then position.line + 1 else position.line
        column :=
          if isBreak c then 0
          else if c == byteOrderMark then position.column
          else position.column + 1 }

def skip : Nat → Position → Position
  | 0, position => position
  | n + 1, position => skip n position.next

theorem rest_next (position : Position) : position.next.rest = position.rest.drop 1 := by
  cases h : position.rest <;> simp [next, h]

theorem rest_skip (n : Nat) (position : Position) :
    (skip n position).rest = position.rest.drop n := by
  induction n generalizing position with
  | zero => simp [skip]
  | succ n ih => simp [skip, ih, rest_next]

end Position

abbrev Scan (α : Type) := StateT Position (Except Error) α

namespace Scan

def rest : Scan Text := do
  return (← get).rest

def column : Scan Nat := do
  return (← get).column

def skip (n : Nat) : Scan Unit := modify (Position.skip n)

def fail {α : Type} : Scan α := throw .malformed

/-- Goes on if the text that is left is as it should be. -/
def guard (holds : Text → Bool) : Scan Unit := do
  if holds (← rest) then return else fail

def takeWhile (p : CodePoint → Bool) : Scan Text := do
  let found := (← rest).takeWhile p
  skip found.length
  return found

def skipWhile (p : CodePoint → Bool) : Scan Unit := do
  let _ ← takeWhile p

/-- Reads over empty lines, and over the blanks that `skipped` allows in front of a
text. -/
def fold (skipped : CodePoint → Bool) : Scan Fold := do
  let found := foldLines skipped true (← rest)
  skip found.length
  return found

/-- Reads over what may be left of a line: blanks, a comment, and its end. -/
def endLine : Scan Unit := do
  skipWhile isSpace
  if (← rest).head? == some '#' then skipWhile (!isBreak ·)
  guard atLineEnd
  skip 1

end Scan

end PageScript.Datum.Yaml
