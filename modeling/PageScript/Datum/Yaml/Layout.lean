import PageScript.Datum.Yaml.Block
import PageScript.Datum.Yaml.Plain
import PageScript.Datum.Yaml.Property
import PageScript.Datum.Yaml.Quoted
/-!
From the characters of a text to its tokens.  What a character means depends on
the layout: on the indentation of its line, on the brackets around it, and on
whether a key may begin there.  That something is a key is told only by the colon
behind it, so the places where a key may have begun are kept in mind.

A text that cannot be read to its end still has tokens: those in front of the first
place where a key may have begun, and then one that tells what is wrong.
-/

namespace PageScript.Datum.Yaml

/-- A place where a key may have begun. -/
structure PossibleKey where
  /-- The number of tokens in front of it. -/
  place : Nat
  /-- Whether nothing but a key can begin there. -/
  isRequired : Bool
  index : Nat
  line : Nat
  column : Nat
  deriving DecidableEq, Repr

def maxKeyLength : Nat := 1024

/-- Whether a key cannot have begun at a place because it would be too long or go
over a line. -/
def PossibleKey.isStale (key : PossibleKey) (position : Position) : Bool :=
  key.line != position.line || key.index + maxKeyLength < position.index

structure Layout where
  position : Position
  /-- The tokens read so far, the last one first. -/
  tokens : List Token
  count : Nat
  /-- The indentation of the innermost block. -/
  indent : Int
  /-- The indentations of the blocks around it. -/
  outerIndents : List Int
  /-- The place where a key may have begun, inside the innermost brackets. -/
  key? : Option PossibleKey
  /-- The places where one may have begun outside these brackets, and outside those
  around them. -/
  outerKeys : List (Option PossibleKey)
  /-- Whether a key may begin here. -/
  allowsKey : Bool
  deriving DecidableEq, Repr

namespace Layout

def start (text : Text) : Layout := ⟨⟨text, 0, 0, 0⟩, [], 0, -1, [], none, [], true⟩

/-- Whether brackets are open; then indentation counts for nothing. -/
def inFlow (layout : Layout) : Bool := !layout.outerKeys.isEmpty

def emit (token : Token) (layout : Layout) : Layout :=
  { layout with tokens := token :: layout.tokens, count := layout.count + 1 }

def skip (n : Nat) (layout : Layout) : Layout :=
  { layout with position := layout.position.skip n }

def scan {α : Type} (reading : Scan α) (layout : Layout) : Except Error (α × Layout) := do
  let (found, position) ← reading layout.position
  return (found, { layout with position })

/-- How many characters of a text are blanks, comments and empty lines, and whether a
line ends among them. -/
def gap (inComment : Bool) : Text → Nat × Bool
  | [] => (0, false)
  | c :: s =>
      if isBreak c then ((gap false s).1 + 1, true)
      else if inComment || isSpace c then
        let (length, breaksLine) := gap inComment s
        (length + 1, breaksLine)
      else if c == '#' then
        let (length, breaksLine) := gap true s
        (length + 1, breaksLine)
      else (0, false)

/-- Goes on to the next token.  A new line may begin with a key. -/
def toToken (layout : Layout) : Layout :=
  let position := layout.position
  let marked := position.index == 0 && position.rest.head? == some Position.byteOrderMark
  let layout := if marked then layout.skip 1 else layout
  let (length, breaksLine) := gap false layout.position.rest
  { layout.skip length with
    allowsKey := layout.allowsKey || (breaksLine && !layout.inFlow) }

/-- A place for a key, unless the key is stale; a required one is not given up. -/
def fresh? (position : Position) : Option PossibleKey → Except Error (Option PossibleKey)
  | none => .ok none
  | some key =>
      if key.isStale position then
        if key.isRequired then .error .malformed else .ok none
      else .ok (some key)

/-- Forgets the places for keys that are too far away. -/
def forgetStale (layout : Layout) : Except Error Layout := do
  let outerKeys ← layout.outerKeys.mapM (fresh? layout.position)
  let key? ← fresh? layout.position layout.key?
  return { layout with key?, outerKeys }

/-- Closes the blocks that are indented more deeply than a column; `outer` are the
indentations around the innermost one. -/
def closeBlocks (column : Int) (layout : Layout) : List Int → Layout
  | [] => { layout with outerIndents := [] }
  | indent :: outer =>
      if column < layout.indent then
        closeBlocks column { layout.emit .closeBlock with indent } outer
      else { layout with outerIndents := indent :: outer }

def unwind (column : Int) (layout : Layout) : Layout :=
  if layout.inFlow then layout else closeBlocks column layout layout.outerIndents

/-- Opens a block at a column, if it is deeper than the innermost one. -/
def openBlock (token : Token) (column : Int) (layout : Layout) : Layout :=
  if layout.indent < column then
    { layout.emit token with
      indent := column
      outerIndents := layout.indent :: layout.outerIndents }
  else layout

/-- Gives up the place for a key, unless it is required. -/
def dropKey (layout : Layout) : Except Error Layout :=
  match layout.key? with
  | some key => if key.isRequired then .error .malformed else .ok { layout with key? := none }
  | none => .ok layout

/-- Keeps in mind that a key may begin here. -/
def markKey (layout : Layout) : Except Error Layout :=
  if layout.allowsKey then do
    let layout ← layout.dropKey
    let position := layout.position
    return { layout with
      key? := some
        { place := layout.count
          isRequired := !layout.inFlow && layout.indent == position.column
          index := position.index
          line := position.line
          column := position.column } }
  else .ok layout

/-- Reads something that a key may begin with.  No other key begins behind it. -/
def content (reading : Scan Token) (layout : Layout) : Except Error Layout := do
  let (token, layout) ← (← layout.markKey).scan reading
  return { layout.emit token with allowsKey := false }

def boundary (reading : Scan Token) (layout : Layout) : Except Error Layout := do
  let (token, layout) ← (← (layout.unwind (-1)).dropKey).scan reading
  return { layout.emit token with allowsKey := false }

def mark (token : Token) : Layout → Except Error Layout := boundary do
  Scan.skip 3
  return token

def openFlow (token : Token) (layout : Layout) : Except Error Layout := do
  let layout ← layout.markKey
  return { (layout.emit token).skip 1 with
    key? := none
    outerKeys := layout.key? :: layout.outerKeys
    allowsKey := true }

def closeFlow (token : Token) (layout : Layout) : Except Error Layout := do
  let layout ← layout.dropKey
  match layout.outerKeys with
  | [] => .error .malformed
  | key? :: outerKeys =>
      return { (layout.emit token).skip 1 with key?, outerKeys, allowsKey := false }

def comma (layout : Layout) : Except Error Layout := do
  let layout ← layout.dropKey
  return { (layout.emit .comma).skip 1 with allowsKey := true }

/-- A block that begins here, where a key might; inside brackets there is none. -/
def beginBlock (token : Token) (layout : Layout) : Except Error Layout :=
  if layout.inFlow then .ok layout
  else if layout.allowsKey then .ok (layout.openBlock token layout.position.column)
  else .error .malformed

def item (layout : Layout) : Except Error Layout := do
  let layout ← (← layout.beginBlock .openBlockList).dropKey
  return { (layout.emit .item).skip 1 with allowsKey := true }

def explicitKey (layout : Layout) : Except Error Layout := do
  let layout ← (← layout.beginBlock .openBlockMap).dropKey
  return { (layout.emit .key).skip 1 with allowsKey := !layout.inFlow }

def announce (key : PossibleKey) (layout : Layout) : Layout :=
  let behind := layout.tokens.take (layout.count - key.place)
  let before :=
    { layout with tokens := layout.tokens.drop behind.length, count := key.place, key? := none }
  let opened := if layout.inFlow then before else before.openBlock .openBlockMap key.column
  let announced := opened.emit .key
  { announced with
    tokens := behind ++ announced.tokens
    count := announced.count + behind.length }

/-- Reads the colon of a value. -/
def value (layout : Layout) : Except Error Layout :=
  match layout.key? with
  | some key => .ok { ((layout.announce key).emit .value).skip 1 with allowsKey := false }
  | none => do
      let layout ← layout.beginBlock .openBlockMap
      return { (layout.emit .value).skip 1 with allowsKey := !layout.inFlow }

/-- Reads a block text.  A key may begin behind it. -/
def blockScalar (folds : Bool) (fuel : Nat) (layout : Layout) : Except Error Layout := do
  let layout ← layout.dropKey
  let (found, layout) ← layout.scan (Scan.block folds layout.indent fuel)
  return { layout.emit (.scalar false found) with allowsKey := true }

/-- Reads a plain text.  A key may begin behind it if a line ends there. -/
def plainScalar (fuel : Nat) (layout : Layout) : Except Error Layout := do
  let layout ← layout.markKey
  let (found, layout) ← layout.scan (Scan.plain layout.inFlow (layout.indent + 1) fuel)
  return { layout.emit (.scalar true found.text) with allowsKey := found.breaksLine }

/-- The signs that a plain text does not begin with. -/
def signs : Text := "-?:,[]\x7b\x7d#&*!|>'\"%@" ++ [CodePoint.ofNat 0x60]

/-- Whether a plain text begins with a character that `s` follows. -/
def beginsPlain (inFlow : Bool) (c : CodePoint) (s : Text) : Bool :=
  if isSpacing c || isBreak c then false
  else if signs.contains c then
    !atGap s && (c == '-' || (!inFlow && (c == '?' || c == ':')))
  else true

/-- Reads the token that begins with `c`, where `s` is the text behind. -/
def step (fuel : Nat) (c : CodePoint) (s : Text) (layout : Layout) : Except Error Layout :=
  let atStart := layout.position.column == 0
  let signCounts := layout.inFlow || atGap s
  if atStart && c == '%' then layout.boundary (Scan.directive fuel)
  else if atStart && atMark documentMark (c :: s) then layout.mark .document
  else if atStart && atMark endMark (c :: s) then layout.mark .documentEnd
  else if c == '[' then layout.openFlow .openFlowList
  else if c == '\x7b' then layout.openFlow .openFlowMap
  else if c == ']' then layout.closeFlow .closeFlowList
  else if c == '\x7d' then layout.closeFlow .closeFlowMap
  else if c == ',' then layout.comma
  else if c == '-' && atGap s then layout.item
  else if c == '?' && signCounts then layout.explicitKey
  else if c == ':' && signCounts then layout.value
  else if c == '*' then layout.content (Token.reference <$> Scan.anchorName)
  else if c == '&' then layout.content (Token.anchor <$> Scan.anchorName)
  else if c == '!' then layout.content (Scan.tag fuel)
  else if c == '|' && !layout.inFlow then layout.blockScalar false fuel
  else if c == '>' && !layout.inFlow then layout.blockScalar true fuel
  else if c == '\'' then layout.content (Token.scalar false <$> Scan.quoted false fuel)
  else if c == '"' then layout.content (Token.scalar false <$> Scan.quoted true fuel)
  else if beginsPlain layout.inFlow c s then layout.plainScalar fuel
  else .error .malformed

def finish (layout : Layout) : Except Error (List Token) := do
  let layout ← (layout.unwind (-1)).dropKey
  return layout.tokens.reverse

def firstKey? (layout : Layout) : Option Nat :=
  let keys := (layout.key? :: layout.outerKeys).filterMap id
  ((keys.filter fun key => !key.isStale layout.position).map PossibleKey.place).min?

/-- The tokens of a text of which no more can be read. -/
def stopped (error : Error) (layout : Layout) : List Token :=
  layout.tokens.reverse.take (layout.firstKey?.getD layout.count) ++ [.stop error]

/-- The layout at the next token, with the blocks closed that end in front of it. -/
def atToken (layout : Layout) : Except Error Layout := do
  let layout ← layout.toToken.forgetStale
  return layout.unwind layout.position.column

/-- The tokens of what is left of the text, of which at most `fuel` are read one by
one.  A text that is `cut` goes on behind its end in a way that cannot be read. -/
def run (cut : Bool) : Nat → Layout → List Token
  | 0, layout => layout.stopped .malformed
  | fuel + 1, layout =>
      match layout.atToken with
      | .error error => layout.stopped error
      | .ok next =>
          match next.position.rest with
          | [] =>
              match if cut then .error .malformed else next.finish with
              | .error error => layout.stopped error
              | .ok tokens => tokens
          | c :: s =>
              match next.step fuel c s with
              | .error error => layout.stopped error
              | .ok after =>
                  if cut && after.position.rest.isEmpty then layout.stopped .malformed
                  else run cut fuel after

end Layout

def Token.ofText (cut : Bool) (text : Text) : List Token :=
  Layout.run cut (text.length + 2) (Layout.start text)

end PageScript.Datum.Yaml
