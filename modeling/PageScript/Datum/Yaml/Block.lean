import PageScript.Datum.Yaml.Position
/-!
Block texts, which stand in lines of their own, indented more deeply than what
they belong to.  Literal ones keep their line breaks, folded ones join lines.
-/

namespace PageScript.Datum.Yaml

inductive Chomping where
  | strip
  | clip
  | keep
  deriving DecidableEq, Repr

/-- What is said about a block text in its first line: what happens to the breaks
at its end, and by how many blanks it is indented. -/
structure BlockHeader where
  chomping : Chomping
  depth? : Option Nat
  deriving DecidableEq, Repr

def chomping? : Text → Option Chomping
  | .char '+' :: _ => some .keep
  | .char '-' :: _ => some .strip
  | _ => none

def blockDepth? : Text → Option Nat
  | c :: _ => if c.isDigit then some (c.toNat - 0x30) else none
  | [] => none

/-- The signs that a text begins with, one of each sort at most and in either order,
and how many they are. -/
def blockSigns (s : Text) : BlockHeader × Nat :=
  match chomping? s with
  | some chomping =>
      match blockDepth? (s.drop 1) with
      | some depth => (⟨chomping, some depth⟩, 2)
      | none => (⟨chomping, none⟩, 1)
  | none =>
      match blockDepth? s with
      | some depth =>
          match chomping? (s.drop 1) with
          | some chomping => (⟨chomping, some depth⟩, 2)
          | none => (⟨.clip, some depth⟩, 1)
      | none => (⟨.clip, none⟩, 0)

/-- What the lines of a block text begin with up to a text: the breaks of empty
lines, and how many characters these and the blanks are.  At most `indent` blanks of
a line are read, `column` of which have been. -/
def blockStart (indent column : Nat) : Text → Text × Nat
  | [] => ([], 0)
  | c :: s =>
      if isSpace c && column < indent then
        let (breaks, length) := blockStart indent (column + 1) s
        (breaks, length + 1)
      else if isBreak c then
        let (breaks, length) := blockStart indent 0 s
        (breakOf c :: breaks, length + 1)
      else ([], 0)

/-- The most blanks at the beginning of a line, up to and with the first line that
is not empty. -/
def deepestStart (column : Nat) : Text → Nat
  | [] => column
  | c :: s =>
      if isSpace c then deepestStart (column + 1) s
      else if isBreak c then max column (deepestStart 0 s)
      else column

/-- What a break between two lines means where lines are joined, with `breaks` of
empty lines between them: nothing or a space, unless one of the lines begins with a
blank. -/
def lineJoint (folds : Bool) (line lineBreak breaks next : Text) : Text :=
  if folds && lineBreak == "\n" && !line.head?.any isSpacing && !next.head?.any isSpacing then
    if breaks.isEmpty then " " else []
  else lineBreak

/-- The lines of a block text, without the breaks at the end, the break that ends the
last line, and those of the empty lines behind it. -/
structure BlockLines where
  text : Text
  lastBreak : Text
  breaks : Text
  deriving DecidableEq, Repr

def BlockLines.chomped (lines : BlockLines) : Chomping → Text
  | .strip => lines.text
  | .clip => lines.text ++ lines.lastBreak
  | .keep => lines.text ++ lines.lastBreak ++ lines.breaks

namespace Scan

/-- Reads the rest of the first line.  An indentation of zero blanks is refused. -/
def blockHeader : Scan BlockHeader := do
  let (header, length) := blockSigns (← rest)
  guard fun _ => header.depth? != some 0
  skip length
  guard atSpace
  endLine
  return header

/-- Reads empty lines, and at most `indent` blanks of the next line. -/
def blockBreaks (indent : Nat) : Scan Text := do
  let (breaks, length) := blockStart indent 0 (← rest)
  skip length
  return breaks

def atBlockLine (indent : Nat) : Scan Bool := do
  return (← column) == indent && !(← rest).isEmpty

/-- Reads at most `fuel` lines that are indented by `indent` blanks, where those
before are given with the last one first, and `breaks` those of empty lines. -/
def blockLines (folds : Bool) (indent : Nat) (before : List Text) (breaks : Text) :
    Nat → Scan BlockLines
  | 0 => fail
  | fuel + 1 => do
      let line ← takeWhile (!isBreak ·)
      let lineBreak := ((← rest).take 1).map breakOf
      skip 1
      let more ← blockBreaks indent
      let before := line :: breaks :: before
      if ← atBlockLine indent then
        let joint := lineJoint folds line lineBreak more (← rest)
        blockLines folds indent (joint :: before) more fuel
      else return ⟨before.reverse.flatten, lineBreak, more⟩

/-- Reads a block text from the bar or the arrow on.  It belongs to something that is
indented by `outer` blanks. -/
def block (folds : Bool) (outer : Int) (fuel : Nat) : Scan Text := do
  skip 1
  let header ← blockHeader
  let least := max (outer + 1).toNat 1
  let deepest := deepestStart 0 (← rest)
  let indent := match header.depth? with
    | some depth => least + depth - 1
    | none => max least deepest
  let breaks ← blockBreaks indent
  let lines ← if ← atBlockLine indent then blockLines folds indent [] breaks fuel
    else pure ⟨[], [], breaks⟩
  return lines.chomped header.chomping

end Scan

end PageScript.Datum.Yaml
