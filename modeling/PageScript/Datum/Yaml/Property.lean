import PageScript.Datum.Yaml.Position
import PageScript.Datum.Yaml.Token
import PageScript.Text.Utf8
import PageScript.Text.WordChar

namespace PageScript.Datum.Yaml

/-- The characters of the names of anchors and directives. -/
def isNameChar (c : CodePoint) : Bool := Text.isAsciiAlnum c || c == '-' || c == '_'

/-- The signs that may follow the name of an anchor directly. -/
def anchorEnds : Text := "?:,]\x7d%@" ++ [CodePoint.ofNat 0x60]

/-- The signs that a tag may hold besides letters, digits and escapes. -/
def tagSigns : Text := "-;/?:@&=+$,_.!~*'()[]"

/-- The characters that a tag may hold as they are. -/
def isTagChar (c : CodePoint) : Bool := Text.isAsciiAlnum c || tagSigns.contains c

/-- The bytes that the escapes at the beginning of a text name, and how many
characters these escapes are. -/
def escapedBytes : Text → Option (List UInt8)
  | .char '%' :: a :: b :: s =>
      match Text.ofHex? [a, b] with
      | some n => (escapedBytes s).map (UInt8.ofNat n :: ·)
      | none => none
  | .char '%' :: _ => none
  | _ => some []

namespace Scan

def anchorName : Scan Text := do
  skip 1
  let name ← takeWhile isNameChar
  guard fun s => !name.isEmpty && (atGap s || s.head?.any anchorEnds.contains)
  return name

/-- Reads escapes, whose bytes have to be those of characters. -/
def tagEscapes : Scan Text := do
  match escapedBytes (← rest) with
  | none => fail
  | some bytes =>
      match Text.ofUtf8? bytes with
      | none => fail
      | some found =>
          skip (3 * bytes.length)
          return found

/-- Reads at most `fuel` more pieces of the name of a tag. -/
def tagPieces (before : Text) : Nat → Scan Text
  | 0 => fail
  | fuel + 1 => do
      let piece ← takeWhile isTagChar
      if (← rest).head? == some '%' then
        let found ← tagEscapes
        tagPieces (before ++ piece ++ found) fuel
      else return before ++ piece

def tagName (fuel : Nat) : Scan Text := do
  guard fun s => s.head?.any fun c => isTagChar c || c == '%'
  tagPieces [] fuel

/-- Reads what a tag begins with: an exclamation mark, a name, and another mark. -/
def tagHandle : Scan Text := do
  guard fun s => s.head? == some '!'
  skip 1
  let name ← takeWhile isNameChar
  guard fun s => s.head? == some '!'
  skip 1
  return "!" ++ name ++ "!"

/-- Whether a second exclamation mark follows the first one of a text. -/
def hasHandle (s : Text) : Bool :=
  ((s.drop 1).takeWhile fun c => !isSpace c && !isBreak c).contains '!'

/-- Reads a tag.  One that consists of the mark alone has the name of that mark. -/
def tag (fuel : Nat) : Scan Token := do
  let s ← rest
  let found ←
    if (s.drop 1).head? == some '<' then do
      skip 2
      let name ← tagName fuel
      guard fun s => s.head? == some '>'
      skip 1
      pure (Token.tag none name)
    else if atGap (s.drop 1) then do
      skip 1
      pure (Token.tag none "!")
    else if hasHandle s then do
      let handle ← tagHandle
      pure (Token.tag (some handle) (← tagName fuel))
    else do
      skip 1
      pure (Token.tag (some "!") (← tagName fuel))
  guard atSpace
  return found

def versionNumber : Scan Nat := do
  let digits ← takeWhile CodePoint.isDigit
  guard fun _ => !digits.isEmpty
  if Text.maxDigits < digits.length then throw (.noInteger (.tooManyDigits digits.length))
  else return Text.numberOf digits

def version : Scan Token := do
  skipWhile isSpace
  let major ← versionNumber
  guard fun s => s.head? == some '.'
  skip 1
  let _ ← versionNumber
  guard atSpace
  return .version major

def anyHandle : Scan Text := do
  match ← rest with
  | .char '!' :: .char ' ' :: _ => do
      skip 1
      return "!"
  | _ => tagHandle

/-- Reads what a tag may begin with, and its meaning. -/
def handle (fuel : Nat) : Scan Token := do
  skipWhile isSpace
  let name ← anyHandle
  guard fun s => s.head? == some ' '
  skipWhile isSpace
  let meaning ← tagName fuel
  guard atSpace
  return .handle name meaning

def directive (fuel : Nat) : Scan Token := do
  skip 1
  let name ← takeWhile isNameChar
  guard fun s => !name.isEmpty && atSpace s
  let found ←
    if name == "YAML" then version
    else if name == "TAG" then handle fuel
    else do
      skipWhile (!isBreak ·)
      pure .directive
  endLine
  return found

end Scan

end PageScript.Datum.Yaml
