import PageScript.Datum.Yaml.Tag
import PageScript.Datum.Yaml.Token
/-!
The nodes that tokens describe: scalars, lists and maps, each with its tag.  Nodes
are known by their numbers, so that a reference is the number of the node it names,
be that a node around it.
-/

namespace PageScript.Datum.Yaml

/-- What a node consists of; the parts are told by their numbers. -/
inductive Content where
  | scalar (text : Text)
  | list (items : List Nat)
  | map (entries : List (Nat × Nat))
  deriving DecidableEq, Repr, Inhabited

structure Node where
  tag : Tag
  content : Content
  deriving DecidableEq, Repr, Inhabited

/-- Some nodes, each in the place of its number. -/
abbrev Nodes := Array Node

def Nodes.node (nodes : Nodes) (n : Nat) : Node := nodes.getD n ⟨.null, .scalar []⟩

def maxDepth : Nat := 488

structure Reading where
  tokens : List Token
  nodes : Nodes
  /-- The nodes that have names. -/
  anchors : List (Text × Nat)
  /-- What tags begin with, and what that means. -/
  handles : List (Text × Text)

/-- The tokens of a text, of which nothing has been read. -/
def Reading.start (tokens : List Token) : Reading :=
  ⟨tokens, #[], [], [("!", "!"), ("!!", Tag.vocabulary)]⟩

abbrev NodeReader (α : Type) := StateT Reading (Except Error) α

namespace NodeReader

def fail {α : Type} : NodeReader α := throw .malformed

def next? : NodeReader (Option Token) := do
  match (← get).tokens.head? with
  | some (.stop error) => throw error
  | found => return found

def advance : NodeReader Unit := modify fun reading =>
  { reading with tokens := reading.tokens.drop 1 }

/-- Whether the next token is one of some; at the end there is none. -/
def sees (tokens : List Token) : NodeReader Bool := do
  return (← next?).any tokens.contains

/-- Adds a node and gives its number. -/
def add (node : Node) : NodeReader Nat := fun reading =>
  .ok (reading.nodes.size, { reading with nodes := reading.nodes.push node })

def fill (n : Nat) (content : Content) : NodeReader Nat := fun reading =>
  .ok (n, { reading with nodes := reading.nodes.modify n fun node => { node with content } })

def named (name : Text) : NodeReader Nat := do
  match (← get).anchors.lookup name with
  | some n => return n
  | none => fail

/-- What stands in front of a node: a name, and a tag. -/
structure Properties where
  name? : Option Text
  tag? : Option Text

namespace Properties

def written? (properties : Properties) : Option Tag :=
  (properties.tag?.filter fun tag : Text => tag != "!").map Tag.ofName

/-- The tag of a text. -/
def tagOf (properties : Properties) (isPlain : Bool) (text : Text) : Tag :=
  match properties.written? with
  | some tag => tag
  | none => if isPlain || properties.tag?.isSome then Tag.ofPlain text else .text

end Properties

/-- Adds a node and gives it its name, which no other node has. -/
def introduce (properties : Properties) (node : Node) : NodeReader Nat := do
  match properties.name? with
  | none => add node
  | some name =>
      if ((← get).anchors.lookup name).isSome then fail
      let n ← add node
      modify fun reading => { reading with anchors := (name, n) :: reading.anchors }
      return n

/-- Adds the node that is meant where none is written. -/
def addEmpty : NodeReader Nat := add ⟨.null, .scalar []⟩

def name? : NodeReader (Option Text) := do
  match ← next? with
  | some (.anchor name) =>
      advance
      return some name
  | _ => return none

def tag? : NodeReader (Option (Option Text × Text)) := do
  match ← next? with
  | some (.tag handle? name) =>
      advance
      return some (handle?, name)
  | _ => return none

def fullName (handle? : Option Text) (name : Text) : NodeReader Text := do
  match handle? with
  | none => return name
  | some handle =>
      match (← get).handles.lookup handle with
      | some meaning => return meaning ++ name
      | none => fail

/-- Reads a name and a tag, in either order. -/
def properties : NodeReader Properties := do
  let (name?, tag?) ← match ← name? with
    | some name => pure (some name, ← tag?)
    | none =>
        match ← tag? with
        | some tag => pure (← name?, some tag)
        | none => pure (none, none)
  match tag? with
  | some (handle?, name) => return ⟨name?, some (← fullName handle? name)⟩
  | none => return ⟨name?, none⟩

/-- The tokens that no node begins with, inside the sort of collection they end. -/
def endsItem : List Token := [.item, .closeBlock]
def endsEntry : List Token := [.key, .value, .closeBlock]
def endsLooseItem : List Token := .item :: endsEntry
def endsFlowItem : List Token := [.comma, .closeFlowList]
def endsFlowEntry : List Token := [.comma, .closeFlowMap]

/-- Reads a value with `read` if a colon follows; otherwise there is none. -/
def valueWith (read : NodeReader Nat) : NodeReader Nat := do
  if ← sees [.value] then
    advance
    read
  else addEmpty

/-- Adds a list and gives it the items that `items` reads. -/
def addList (properties : Properties) (items : NodeReader (List Nat)) : NodeReader Nat := do
  let n ← introduce properties ⟨properties.written?.getD .list, .list []⟩
  fill n (.list (← items))

/-- Adds a map and gives it the entries that `entries` reads. -/
def addMap (properties : Properties) (entries : NodeReader (List (Nat × Nat))) :
    NodeReader Nat := do
  let n ← introduce properties ⟨properties.written?.getD .map, .map []⟩
  fill n (.map (← entries))

mutual

/-- Reads a node.  Only outside brackets it may be a block, and only in an entry of
a block it may be a list that is not indented.  It stands in `depth` fewer nodes
than are read in each other. -/
def node (isBlock isEntry : Bool) (depth : Nat) : Nat → NodeReader Nat
  | 0 => fail
  | fuel + 1 => do
      if depth = 0 then throw .tooDeep
      let depth := depth - 1
      match ← next? with
      | some (.reference name) =>
          advance
          named name
      | _ =>
          let properties ← properties
          match ← next? with
          | some (.scalar isPlain found) =>
              let n ← introduce properties ⟨properties.tagOf isPlain found, .scalar found⟩
              advance
              return n
          | some .openFlowList =>
              advance
              addList properties (flowItems true [] depth fuel)
          | some .openFlowMap =>
              advance
              addMap properties (flowEntries true [] depth fuel)
          | token? =>
              if isEntry && token? == some .item then
                addList properties (looseItems [] depth fuel)
              else if isBlock && token? == some .openBlockList then
                advance
                addList properties (blockItems [] depth fuel)
              else if isBlock && token? == some .openBlockMap then
                advance
                addMap properties (blockEntries [] depth fuel)
              else if properties.name?.isSome || properties.tag?.isSome then
                introduce properties ⟨properties.tagOf true [], .scalar []⟩
              else fail
termination_by structural fuel => fuel

/-- Reads a node, unless one of some tokens follows. -/
def nodeUnless (isBlock isEntry : Bool) (ends : List Token) (depth : Nat) : Nat → NodeReader Nat
  | 0 => fail
  | fuel + 1 => do
      if ← sees ends then addEmpty else node isBlock isEntry depth fuel
termination_by structural fuel => fuel

/-- Reads the items of a block up to its end; those before are given with the last
one first. -/
def blockItems (before : List Nat) (depth : Nat) : Nat → NodeReader (List Nat)
  | 0 => fail
  | fuel + 1 => do
      match ← next? with
      | some .item =>
          advance
          let item ← nodeUnless true false endsItem depth fuel
          blockItems (item :: before) depth fuel
      | some .closeBlock =>
          advance
          return before.reverse
      | _ => fail
termination_by structural fuel => fuel

/-- Reads the items of a list that is indented no more than the entry it is the
value of. -/
def looseItems (before : List Nat) (depth : Nat) : Nat → NodeReader (List Nat)
  | 0 => fail
  | fuel + 1 => do
      match ← next? with
      | some .item =>
          advance
          let item ← nodeUnless true false endsLooseItem depth fuel
          looseItems (item :: before) depth fuel
      | _ => return before.reverse
termination_by structural fuel => fuel

/-- Reads the entries of a block up to its end. -/
def blockEntries (before : List (Nat × Nat)) (depth : Nat) : Nat → NodeReader (List (Nat × Nat))
  | 0 => fail
  | fuel + 1 => do
      match ← next? with
      | some .key =>
          advance
          let key ← nodeUnless true true endsEntry depth fuel
          let value ← valueWith (nodeUnless true true endsEntry depth fuel)
          blockEntries ((key, value) :: before) depth fuel
      | some .closeBlock =>
          advance
          return before.reverse
      | _ => fail
termination_by structural fuel => fuel

/-- Reads the items between brackets up to the closing one.  An item that is a key
with a value is a map of its own. -/
def flowItems (isFirst : Bool) (before : List Nat) (depth : Nat) : Nat → NodeReader (List Nat)
  | 0 => fail
  | fuel + 1 => do
      if ← sees [.closeFlowList] then
        advance
        return before.reverse
      else if isFirst || (← sees [.comma]) then
        if !isFirst then advance
        match ← next? with
        | some .key =>
            let item ← flowPair depth fuel
            flowItems false (item :: before) depth fuel
        | some .closeFlowList =>
            advance
            return before.reverse
        | _ =>
            let item ← node false false depth fuel
            flowItems false (item :: before) depth fuel
      else fail
termination_by structural fuel => fuel

/-- Reads a map of one entry that is an item between brackets. -/
def flowPair (depth : Nat) : Nat → NodeReader Nat
  | 0 => fail
  | fuel + 1 => do
      if depth = 0 then throw .tooDeep
      let depth := depth - 1
      addMap ⟨none, none⟩ do
        advance
        let key ← nodeUnless false false (.value :: endsFlowItem) depth fuel
        let value ← valueWith (nodeUnless false false endsFlowItem depth fuel)
        return [(key, value)]
termination_by structural fuel => fuel

/-- Reads the entries between braces up to the closing one.  A key that no colon
follows has no value. -/
def flowEntries (isFirst : Bool) (before : List (Nat × Nat)) (depth : Nat) :
    Nat → NodeReader (List (Nat × Nat))
  | 0 => fail
  | fuel + 1 => do
      if ← sees [.closeFlowMap] then
        advance
        return before.reverse
      else if isFirst || (← sees [.comma]) then
        if !isFirst then advance
        match ← next? with
        | some .key =>
            advance
            let key ← nodeUnless false false (.value :: endsFlowEntry) depth fuel
            let value ← valueWith (nodeUnless false false endsFlowEntry depth fuel)
            flowEntries false ((key, value) :: before) depth fuel
        | some .closeFlowMap =>
            advance
            return before.reverse
        | _ =>
            let key ← node false false depth fuel
            let value ← addEmpty
            flowEntries false ((key, value) :: before) depth fuel
      else fail
termination_by structural fuel => fuel

end

/-- What the lines in front of a document say. -/
structure Prologue where
  knowsVersion : Bool
  handles : List (Text × Text)

/-- Reads at most `fuel` lines in front of a document, and the mark that begins it.
The version is told once at most, and it is a first one; a handle is told once. -/
def prologue (known : Prologue) : Nat → NodeReader Prologue
  | 0 => fail
  | fuel + 1 => do
      match ← next? with
      | some .document =>
          advance
          return known
      | some .directive =>
          advance
          prologue known fuel
      | some (.version major) =>
          advance
          if known.knowsVersion || major != 1 then fail
          else prologue { known with knowsVersion := true } fuel
      | some (.handle name meaning) =>
          advance
          if (known.handles.lookup name).isSome then fail
          else prologue { known with handles := (name, meaning) :: known.handles } fuel
      | _ => fail

/-- Whether a token stands in front of a document. -/
def beginsDocument (token? : Option Token) : Bool :=
  match token? with
  | some .document | some .directive | some (.version _) | some (.handle _ _) => true
  | _ => false

/-- Whether no node begins at a token. -/
def endsDocument (token? : Option Token) : Bool :=
  token?.all (· == .documentEnd) || beginsDocument token?

/-- Reads over the marks that end a document; nothing else may follow. -/
def finish : Nat → NodeReader Unit
  | 0 => fail
  | fuel + 1 => do
      match ← next? with
      | none => return
      | some .documentEnd =>
          advance
          finish fuel
      | token? =>
          if beginsDocument token? then discard (prologue ⟨false, []⟩ fuel)
          fail

/-- Reads the node of a text that holds at most one document, if it holds one.  Every
token takes at most three calls in each other. -/
def document? (fuel : Nat) : NodeReader (Option Nat) := do
  match ← next? with
  | none => return none
  | first? =>
      let n ← if beginsDocument first? then do
          let found ← prologue ⟨false, []⟩ fuel
          modify fun reading => { reading with handles := found.handles ++ reading.handles }
          if endsDocument (← next?) then addEmpty else node true false maxDepth fuel
        else node true false maxDepth fuel
      finish fuel
      return some n

end NodeReader

/-- The nodes of a text that holds at most one document, and the number of the
outermost one. -/
def Node.ofTokens (tokens : List Token) : Except Error (Nodes × Option Nat) := do
  let fuel := 3 * tokens.length + 3
  let (n?, reading) ← NodeReader.document? fuel (Reading.start tokens)
  return (reading.nodes, n?)

end PageScript.Datum.Yaml
