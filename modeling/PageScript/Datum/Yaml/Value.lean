import PageScript.Datum.Yaml.Node
import PageScript.Datum.Yaml.Scalar
/-!
The data that nodes stand for.  A collection may hold itself, so collections are begun
empty and filled afterwards, in the order in which they were begun; what they hold is
told by the numbers of nodes.  A map takes the entries of other maps in when it is
filled.
-/

namespace PageScript.Datum.Yaml

/-- What is made of a node. -/
inductive Value where
  | datum (found : Datum)
  | list (items : List Nat)
  | pairs (entries : List (Nat × Nat))
  | set (members : List Datum)
  /-- Entries whose keys are texts; the others are not kept. -/
  | map (entries : List (Text × Nat))
  deriving Repr, Inhabited

structure Making where
  nodes : Nodes
  values : Array (Option Value)
  /-- The nodes whose values are begun but not filled, the last one first. -/
  begun : List Nat

abbrev Maker (α : Type) := StateT Making (Except Error) α

namespace Maker

/-- The deepest chain of maps that take each other in, or stand for a text. -/
def maxChain : Nat := 975

def node (n : Nat) : Maker Node := return (← get).nodes.node n

def putEntries (n : Nat) (entries : List (Nat × Nat)) : Maker Unit := modify fun making =>
  { making with
    nodes := making.nodes.modify n fun node => { node with content := .map entries } }

def entries (n : Nat) : Maker (List (Nat × Nat)) := do
  match (← node n).content with
  | .map entries => return entries
  | _ => throw .malformed

def putValue (n : Nat) (value : Value) : Maker Unit := modify fun making =>
  { making with values := making.values.setIfInBounds n (some value) }

def beginWith (n : Nat) (value : Value) : Maker Value := do
  putValue n value
  modify fun making => { making with begun := n :: making.begun }
  return value

/-! Maps that take the entries of others in. -/

/-- The value of the first entry with the sign for it, and the entries without that
one. -/
def takeSign? (nodes : Nodes) : List (Nat × Nat) → Option (Nat × List (Nat × Nat))
  | [] => none
  | (key, value) :: rest =>
      if (nodes.node key).tag == .merge then some (value, rest)
      else (takeSign? nodes rest).map fun (found, others) => (found, (key, value) :: others)

/-- The entries that a value brings in: those of a map, or of the maps of a list, from
the last one to the first. -/
def broughtBy (flatten : Nat → Maker Unit) (n : Nat) : Maker (List (Nat × Nat)) := do
  match (← node n).content with
  | .map _ =>
      flatten n
      entries n
  | .list items =>
      let groups ← items.mapM fun item => do
        discard (entries item)
        flatten item
        entries item
      return groups.reverse.flatten
  | .scalar _ => throw .malformed

/-- Takes at most `fuel` signs out of a map and gives the entries that they bring in,
behind those found before. -/
def takeSigns (flatten : Nat → Maker Unit) (n : Nat) (before : List (Nat × Nat)) :
    Nat → Maker (List (Nat × Nat))
  | 0 => return before
  | fuel + 1 => do
      match takeSign? (← get).nodes (← entries n) with
      | none => return before
      | some (value, others) =>
          putEntries n others
          takeSigns flatten n (before ++ (← broughtBy flatten value)) fuel

/-- Makes a key that is the sign for a default value a text. -/
def plainKey (key : Nat) : Maker Unit := do
  if (← node key).tag == .default then
    modify fun making =>
      { making with nodes := making.nodes.modify key fun node => { node with tag := .text } }

/-- Puts the entries that a map takes in in front of its own ones. -/
def flatten : Nat → Nat → Maker Unit
  | 0, _ => throw .tooDeep
  | depth + 1, n => do
      let brought ← takeSigns (flatten depth) n [] (← entries n).length
      let own ← entries n
      own.forM fun (key, _) => plainKey key
      putEntries n (brought ++ own)

/-! Values. -/

/-- The text of a scalar; that of a map is the one of its default value. -/
def textOf : Nat → Nat → Maker Text
  | 0, _ => throw .tooDeep
  | depth + 1, n => do
      match (← node n).content with
      | .scalar found => return found
      | .list _ => throw .malformed
      | .map entries =>
          let nodes := (← get).nodes
          match entries.find? fun (key, _) => (nodes.node key).tag == .default with
          | some (_, value) => textOf depth value
          | none => throw .malformed

/-- The value of a node that is no collection. -/
def makeScalar (n : Nat) (node : Node) : Maker Value := do
  let text ← textOf maxChain n
  match node.tag, node.content with
  | .moment, .map _ => throw .momentOfMap
  | tag, _ =>
      let value := Value.datum (← (scalar text tag : Except Error Datum))
      putValue n value
      return value

/-- The value of a node; that of a collection is begun. -/
def make (n : Nat) : Maker Value := do
  match (← get).values.getD n none with
  | some value => return value
  | none =>
      let node ← node n
      match node.tag with
      | .list => beginWith n (.list [])
      | .pairs => beginWith n (.pairs [])
      | .set => beginWith n (.set [])
      | .map => beginWith n (.map [])
      | .merge | .default | .other => throw .malformed
      | _ => makeScalar n node

/-- The value of a key, which is no collection. -/
def makeKey (n : Nat) : Maker Datum := do
  match ← make n with
  | .datum found => return found
  | _ => throw .malformed

def makeEntries (n : Nat) : Maker (List (Datum × Nat)) := do
  discard (entries n)
  flatten maxChain n
  (← entries n).mapM fun (key, value) => do
    let found ← makeKey key
    discard (make value)
    return (found, value)

/-- Makes the two values of a list item that is a map with one entry. -/
def makePair (n : Nat) : Maker (Nat × Nat) := do
  match ← entries n with
  | [(key, value)] =>
      discard (make key)
      discard (make value)
      return (key, value)
  | _ => throw .malformed

def items (n : Nat) : Maker (List Nat) := do
  match (← node n).content with
  | .list items => return items
  | _ => throw .malformed

/-- The entries with a node under a key, in the place of an older one. -/
def putNode (key : Text) (n : Nat) : List (Text × Nat) → List (Text × Nat)
  | [] => [(key, n)]
  | (k, m) :: rest => if k = key then (key, n) :: rest else (k, m) :: putNode key n rest

/-- The entries whose keys are texts, each key once with its last value. -/
def texts (entries : List (Datum × Nat)) : List (Text × Nat) :=
  entries.foldl (fun found (key, n) =>
    match key with
    | .text key => putNode key n found
    | _ => found) []

/-- The whole number that a piece of data counts as. -/
def whole? : Datum → Option Int
  | .bool b => some b.toInt
  | .int n => some n
  | .float x => x.toInt?
  | _ => none

/-- Whether two pieces of data are the same in a set: the kind of a number does not
matter. -/
def isSame : Datum → Datum → Bool
  | .null, .null => true
  | .float x, .float y => x == y || (x.toInt?.isSome && x.toInt? == y.toInt?)
  | .moment s, .moment t => s == t
  | .text s, .text t => s == t
  | .bytes s, .bytes t => s == t
  | x, y => (whole? x).isSome && whole? x == whole? y

def distinct (members : List Datum) : List Datum :=
  (members.foldl (fun found member =>
    if found.any (isSame member) then found else member :: found) []).reverse

/-- Fills a value that has been begun. -/
def fill (n : Nat) : Maker Unit := do
  match (← get).values.getD n none with
  | some (.list _) =>
      let items ← items n
      items.forM fun item => discard (make item)
      putValue n (.list items)
  | some (.pairs _) => putValue n (.pairs (← (← items n).mapM makePair))
  | some (.set _) => putValue n (.set (distinct ((← makeEntries n).map Prod.fst)))
  | some (.map _) => putValue n (.map (texts (← makeEntries n)))
  | _ => return

/-- Fills all that has been begun, and what is begun meanwhile. -/
def fillAll : Nat → Maker Unit
  | 0 => return
  | fuel + 1 => do
      let begun := (← get).begun.reverse
      if begun.isEmpty then return
      modify fun making => { making with begun := [] }
      begun.forM fill
      fillAll fuel

end Maker

/-- What values stand for: collections, down to a depth below which they are shown
empty. -/
def Value.unfold (values : Array (Option Value)) : Nat → Value → Datum
  | _, .datum found => found
  | 0, .map _ => .map []
  | 0, _ => .list []
  | depth + 1, value =>
      let below (n : Nat) : Datum := unfold values depth ((values.getD n none).getD default)
      match value with
      | .datum found => found
      | .list items => .list (items.map below)
      | .pairs entries => .list (entries.map fun (key, n) => .list [below key, below n])
      | .set members => .list members
      | .map entries => .map (entries.map fun (key, n) => (key, below n))

end PageScript.Datum.Yaml
