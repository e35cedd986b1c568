import PageScript.Text

namespace PageScript.Record

inductive PathStep where
  | key (name : Text)
  | index (i : Nat)
  deriving DecidableEq, Repr

def PathStep.text : PathStep → Text
  | .key name => name
  | .index i => toString i

inductive Cause where
  | missing
  | noText
  /-- A text with surrogates, or bytes that are no text. -/
  | noUnicode
  | noList
  | noRecord (title : Text)
  /-- A word that is none of the words allowed. -/
  | noneOf (allowed : List Text)
  /-- A name that is none of the members of an enumeration. -/
  | noMember (allowed : List Text)
  | blankTarget
  | noInt
  | intUnreadable
  /-- An integer of too many digits. -/
  | intTooLong
  | intWithFraction
  /-- A number that is infinite or none. -/
  | noFinite
  | noBool
  | boolUnreadable
  deriving DecidableEq, Repr

/-- A part of the data that does not fit. -/
structure Issue where
  path : List PathStep
  cause : Cause
  deriving DecidableEq, Repr

def Cause.kind : Cause → Text
  | .missing => "missing"
  | .noText => "string_type"
  | .noUnicode => "string_unicode"
  | .noList => "list_type"
  | .noRecord _ => "model_type"
  | .noneOf _ => "literal_error"
  | .noMember _ => "enum"
  | .blankTarget => "value_error"
  | .noInt => "int_type"
  | .intUnreadable => "int_parsing"
  | .intTooLong => "int_parsing_size"
  | .intWithFraction => "int_from_float"
  | .noFinite => "finite_number"
  | .noBool => "bool_type"
  | .boolUnreadable => "bool_parsing"

def alternatives : List Text → Text
  | [] => ""
  | [word] => "'" ++ word ++ "'"
  | [word, last] => "'" ++ word ++ "' or '" ++ last ++ "'"
  | word :: rest => "'" ++ word ++ "', " ++ alternatives rest

def Cause.message : Cause → Text
  | .missing => "Field required"
  | .noText => "Input should be a valid string"
  | .noUnicode =>
      "Input should be a valid string, unable to parse raw data as a unicode string"
  | .noList => "Input should be a valid list"
  | .noRecord title => "Input should be a valid dictionary or instance of " ++ title
  | .noneOf allowed | .noMember allowed => "Input should be " ++ alternatives allowed
  | .blankTarget => "Value error, target must not be empty"
  | .noInt => "Input should be a valid integer"
  | .intUnreadable => "Input should be a valid integer, unable to parse string as an integer"
  | .intTooLong => "Unable to parse input string as an integer, exceeded maximum size"
  | .noFinite => "Input should be a finite number"
  | .intWithFraction => "Input should be a valid integer, got a number with a fractional part"
  | .noBool => "Input should be a valid boolean"
  | .boolUnreadable => "Input should be a valid boolean, unable to interpret input"

/-- The path with full stops between its steps. -/
def Issue.place (issue : Issue) : Text := ("." : Text).intercalate (issue.path.map PathStep.text)

/-- Data that is no record of the kind `title`, with everything that is wrong. -/
structure Mismatch where
  title : Text
  issues : List Issue
  deriving DecidableEq, Repr

/-- One line that counts the issues. -/
def Mismatch.headline (mismatch : Mismatch) : Text :=
  let count := mismatch.issues.length
  toString count ++ " validation error" ++ (if count = 1 then "" else "s") ++ " for " ++
    mismatch.title

end PageScript.Record
