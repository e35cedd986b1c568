import PageScript.Datum.Yaml.Layout
import PageScript.Datum.Yaml.Value

namespace PageScript.Datum.Yaml

/-- The text with one character for every end of a line. -/
def withLineFeeds : Text → Text
  | .char '\r' :: .char '\n' :: s => .char '\n' :: withLineFeeds s
  | .char '\r' :: s => .char '\n' :: withLineFeeds s
  | c :: s => c :: withLineFeeds s
  | [] => []

def isAllowed (c : CodePoint) : Bool :=
  let n := c.toNat
  n == 0x09 || n == 0x0A || n == 0x0D || (0x20 ≤ n && n ≤ 0x7E) || n == 0x85 ||
    (0xA0 ≤ n && n ≤ 0xD7FF) || (0xE000 ≤ n && n ≤ 0xFFFD) || 0x10000 ≤ n

/-- How many characters are looked at before the first one is read, and how many more
at a time. -/
def firstPortion : Nat := 8192
def portion : Nat := 4096

/-- The tokens of a text.  A character that may not stand there is an error once the
portion that holds it is looked at, which is not before the tokens in front of that
portion are read. -/
def tokens (s : Text) : Except Error (List Token) :=
  match s.findIdx? (!isAllowed ·) with
  | none => .ok (Token.ofText false s)
  | some n =>
      if n < firstPortion then .error .malformed
      else .ok (Token.ofText true (s.take (firstPortion + (n - firstPortion) / portion * portion)))

def values (nodes : Nodes) (n : Nat) : Except Error (Value × Array (Option Value)) := do
  let making : Making := ⟨nodes, .replicate nodes.size none, []⟩
  let (value, making) ← (Maker.make n).run making
  let ((), making) ← (Maker.fillAll (nodes.size + 1)).run making
  return ((making.values.getD n none).getD value, making.values)

/-- Reads a text that holds at most one document, which may be empty.  Collections may
hold themselves; down to `depth` levels they are told. -/
def read (depth : Nat) (s : Text) : Except Error Datum := do
  let tokens ← tokens (withLineFeeds s)
  match ← Node.ofTokens tokens with
  | (_, none) => return .null
  | (nodes, some n) =>
      let (value, all) ← values nodes n
      return value.unfold all depth

end PageScript.Datum.Yaml
