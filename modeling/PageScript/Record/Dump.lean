import PageScript.Datum
import PageScript.Text.Literal
/-!
Records as they are written out.  A field has a name, in words joined by
underscores, and a label, which is the name in camel case unless the field has
one of its own; it is written under either, empty fields included.
-/

namespace PageScript.Record

/-- What a field is called: its name, and the label that outranks it. -/
structure Key where
  name : Text
  label : Text
  deriving DecidableEq, Repr

/-- A text in camel case: every letter behind an underscore is a capital, and
the underscores are gone. -/
def camel : Text → Text
  | .char '_' :: c :: s => c.toUpper :: camel s
  | c :: s => c :: camel s
  | [] => []

/-- A field whose label is its name in camel case. -/
def Key.camelCase (name : Text) : Key := ⟨name, camel name⟩

def Key.plain (name : Text) : Key := ⟨name, name⟩

/-- What is written out for a value.  The fields of a record stand in the order
of their declaration. -/
inductive Dump where
  | null
  | bool (value : Bool)
  | int (value : Int)
  | text (value : Text)
  | list (items : List Dump)
  | record (fields : List (Key × Dump))
  deriving Repr, Inhabited

namespace Dump

def text? : Option Text → Dump
  | none => null
  | some s => text s

def texts (items : List Text) : Dump := list (items.map text)

mutual

/-- The data that is written, with the keys that `keyOf` chooses. -/
def toDatum (keyOf : Key → Text) : Dump → Datum
  | null => .null
  | bool b => .bool b
  | int n => .int n
  | text s => .text s
  | list items => .list (toData keyOf items)
  | record fields => .map (toEntries keyOf fields)

def toData (keyOf : Key → Text) : List Dump → List Datum
  | [] => []
  | item :: rest => toDatum keyOf item :: toData keyOf rest

def toEntries (keyOf : Key → Text) : List (Key × Dump) → List (Text × Datum)
  | [] => []
  | (key, value) :: rest => (keyOf key, toDatum keyOf value) :: toEntries keyOf rest

end

mutual

/-- The dump without the fields that are empty. -/
def sparse : Dump → Dump
  | list items => list (sparseItems items)
  | record fields => record (sparseFields fields)
  | value => value

def sparseItems : List Dump → List Dump
  | [] => []
  | item :: rest => sparse item :: sparseItems rest

def sparseFields : List (Key × Dump) → List (Key × Dump)
  | [] => []
  | (_, null) :: rest => sparseFields rest
  | (key, value) :: rest => (key, sparse value) :: sparseFields rest

end

/-- A line end and two blanks for each level. -/
def newLine (level : Nat) : Text := "\n" ++ List.replicate (2 * level) (' ' : CodePoint)

mutual

/-- The pieces of the dump as JSON text over several lines, fields under their labels,
for a value that stands `level` levels inside.  A text is one piece together with what
stands before it, which is something only for an item of a list. -/
def pieces (level : Nat) (before : Text) : Dump → List Text
  | null => [before ++ "null"]
  | bool true => [before ++ "true"]
  | bool false => [before ++ "false"]
  | int n => [before ++ toString n]
  | text s => [before ++ Text.dataLiteral s]
  | list [] => [before ++ "[]"]
  | list (item :: rest) =>
      before :: pieces (level + 1) ("[" ++ newLine (level + 1)) item ++
        itemPieces (level + 1) rest ++ [newLine level ++ "]"]
  | record [] => [before ++ "\x7b\x7d"]
  | record ((key, value) :: rest) =>
      (before ++ "\x7b" ++ newLine (level + 1)) :: Text.dataLiteral key.label :: ": " ::
        pieces (level + 1) [] value ++ fieldPieces (level + 1) rest ++ [newLine level ++ "\x7d"]

def itemPieces (level : Nat) : List Dump → List Text
  | [] => []
  | item :: rest => pieces level ("," ++ newLine level) item ++ itemPieces level rest

def fieldPieces (level : Nat) : List (Key × Dump) → List Text
  | [] => []
  | (key, value) :: rest =>
      ("," ++ newLine level) :: Text.dataLiteral key.label :: ": " :: pieces level [] value ++
        fieldPieces level rest

end

/-- The dump as JSON text over several lines, fields under their labels. -/
def pretty (dump : Dump) : Text := (dump.pieces 0 []).flatten

end Dump

end PageScript.Record
