import PageScript.Datum.Moment
import PageScript.Text.Integer
/-!
The tokens of a YAML text, and why one is not read.  Indentation is told by
tokens of its own, and the key of a map is announced by a token in front of it.
-/

namespace PageScript.Datum.Yaml

inductive Error where
  /-- The text is no YAML, or holds something that has no value. -/
  | malformed
  /-- An escape names a number beyond the last code point. -/
  | noCodePoint
  /-- An escape names a number of more than thirty-one bits. -/
  | hugeCodePoint
  /-- Lists and maps stand in each other more deeply than is read. -/
  | tooDeep
  | noInteger (found : Text.IntegerError)
  /-- An integer or a floating-point number without any characters. -/
  | emptyNumber
  | noFloat (found : Text)
  /-- A number in sixties has so many parts that the first one counts too much. -/
  | hugeSixties
  /-- A word that is neither true nor false, in lower case. -/
  | noTruth (word : Text)
  /-- A text that is tagged as a moment and has not the form of one. -/
  | noMomentForm
  /-- A map that is tagged as a moment. -/
  | momentOfMap
  | noMoment (found : Moment.Error)
  deriving DecidableEq, Repr

/-- What an error says; a text that is no YAML is only called so. -/
def Error.message : Error → Text
  | .malformed => "<yaml error>"
  | .noCodePoint => "chr() arg not in range(0x110000)"
  | .hugeCodePoint => "Python int too large to convert to C int"
  | .tooDeep => ""
  | .noInteger found => found.message
  | .emptyNumber => "string index out of range"
  | .noFloat found => "could not convert string to float: " ++ Text.quoted found
  | .hugeSixties => "int too large to convert to float"
  | .noTruth word => Text.quoted word
  | .noMomentForm => "'NoneType' object has no attribute 'groupdict'"
  | .momentOfMap => "expected string or bytes-like object, got 'list'"
  | .noMoment found => found.message

inductive Token where
  | document
  | documentEnd
  /-- A line that names the version of the format, by its first number. -/
  | version (major : Nat)
  /-- A line that gives a meaning to what tags begin with. -/
  | handle (name meaning : Text)
  /-- Another line that speaks about the document after it. -/
  | directive
  | openBlockList
  | openBlockMap
  | closeBlock
  | openFlowList
  | closeFlowList
  | openFlowMap
  | closeFlowMap
  | item
  | comma
  | key
  | value
  | anchor (name : Text)
  | reference (name : Text)
  /-- A tag: what it begins with, unless it is written in full, and what follows. -/
  | tag (handle? : Option Text) (name : Text)
  /-- A text that is written plainly, or in quotes or as a block. -/
  | scalar (isPlain : Bool) (text : Text)
  /-- No token: what follows cannot be read. -/
  | stop (error : Error)
  deriving DecidableEq, Repr

end PageScript.Datum.Yaml
