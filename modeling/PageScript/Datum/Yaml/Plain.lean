import PageScript.Datum.Yaml.Position

namespace PageScript.Datum.Yaml

/-- The signs that have a meaning inside brackets and braces. -/
def flowSigns : Text := ",[]\x7b\x7d"

/-- Whether a colon separates a key from its value when `s` follows it. -/
def isSeparatingColon (inFlow : Bool) (s : Text) : Bool :=
  atGap s || (inFlow && s.head?.any flowSigns.contains)

/-- Whether a word of a plain text ends in front of a character that `s` follows. -/
def endsWord (inFlow : Bool) (c : CodePoint) (s : Text) : Bool :=
  isSpacing c || isBreak c || (c == ':' && isSeparatingColon inFlow s) ||
    (inFlow && (c == '?' || flowSigns.contains c))

/-- The word of a plain text that a text begins with. -/
def plainWord (inFlow : Bool) : Text → Text
  | [] => []
  | c :: s => if endsWord inFlow c s then [] else c :: plainWord inFlow s

/-- What stands between two words: what it means, whether it holds a line break,
and whether the plain text ends there. -/
structure PlainGap where
  spacing : Text
  breaksLine : Bool
  final : Bool
  deriving DecidableEq, Repr

/-- The place in front of the first word. -/
def PlainGap.before : PlainGap := ⟨[], false, false⟩

/-- A plain text, and whether a line ends behind it. -/
structure Plain where
  text : Text
  breaksLine : Bool
  deriving DecidableEq, Repr

namespace Scan

/-- Reads what follows a word.  Outside brackets a plain text goes on in another
line only if that is indented by `indent` blanks. -/
def plainGap (inFlow : Bool) (indent : Int) : Scan PlainGap := do
  let blanks ← takeWhile isSpace
  match (← rest).head? with
  | none => return ⟨blanks, false, true⟩
  | some c =>
      if isBreak c then
        skip 1
        let found ← fold isSpace
        return {
          spacing := folded c found.breaks
          breaksLine := true
          final := found.separated || (← rest).head? == some '#' ||
            (!inFlow && ((← column) : Int) < indent) }
      else return ⟨blanks, false, blanks.isEmpty || c == '#'⟩

/-- Reads at most `fuel` more words of a plain text, where those before are given
with the last one first and `gap` stands behind them. -/
def plainWords (inFlow : Bool) (indent : Int) (before : List Text) (gap : PlainGap) :
    Nat → Scan Plain
  | 0 => fail
  | fuel + 1 => do
      let word := plainWord inFlow (← rest)
      if gap.final || word.isEmpty then return ⟨before.reverse.flatten, gap.breaksLine⟩
      else
        skip word.length
        let next ← plainGap inFlow indent
        plainWords inFlow indent (word :: gap.spacing :: before) next fuel

/-- Reads a plain text, and what follows it up to the next text. -/
def plain (inFlow : Bool) (indent : Int) (fuel : Nat) : Scan Plain :=
  plainWords inFlow indent [] .before fuel

end Scan

end PageScript.Datum.Yaml
