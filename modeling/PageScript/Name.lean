import PageScript.Digest
import PageScript.Text.WordChar

namespace PageScript.Name

/-- The characters that a name may hold: ASCII letters, digits, underscores. -/
def isSafe (c : CodePoint) : Bool := Text.isAsciiAlnum c || c == '_'

/-- The text with an underscore for each character that is not safe. -/
def cleaned (s : Text) : Text := s.map fun c => if isSafe c then c else '_'

/-- The text with one underscore for each run of underscores. -/
def squeeze : Text → Text
  | .char '_' :: .char '_' :: s => squeeze (.char '_' :: s)
  | c :: s => c :: squeeze s
  | [] => []

/-- The text without the underscores at its two ends. -/
def stripUnderscores (s : Text) : Text :=
  let isUnderscore := fun c : CodePoint => c == '_'
  ((s.dropWhile isUnderscore).reverse.dropWhile isUnderscore).reverse

/-- The slug of a text: its runs of ASCII letters and digits in lower case,
joined by single underscores. -/
def slug (text : Text) : Text :=
  (stripUnderscores (squeeze (cleaned text))).map CodePoint.toLower

/-- A name for a module: the slug, or a word for the empty one, and not
beginning with a digit. -/
def moduleName (text : Text) : Text :=
  match slug text with
  | [] => "scenario"
  | c :: s => if c.isDigit then "scenario_" ++ c :: s else c :: s

def digestSuffix (text : Text) : Text := "_" ++ Digest.short text

/-- The name that `name` makes of a text with its digest.  A surrogate is never
part of a name, so a text with one needs a digest; but it has none. -/
def withDigest (name : Text → Text) (text : Text) : Except Text.Unencodable Text :=
  match Text.unencodable? text with
  | some found => .error found
  | none => .ok (name text)

/-- The module name, with a digest unless the name is the text itself. -/
def uniqueModuleName (text : Text) : Text :=
  let name := moduleName text
  if name == text then name else name ++ digestSuffix text

def capitalized : Text → Text
  | [] => []
  | c :: s => c.toUpper :: s.map CodePoint.toLower

/-- A name for a class: the parts of the module name, each capitalised. -/
def className (text : Text) : Text :=
  (Text.splitAt '_' (moduleName text)).flatMap capitalized

/-- A text as an identifier, or `fallback` for the empty one. -/
def identifier (text fallback : Text) : Text :=
  if text == "" then fallback
  else
    let name := cleaned text
    if name == text then name else name ++ digestSuffix text

/-- The text without `suffix` at its end. -/
def withoutSuffix (suffix s : Text) : Text :=
  if suffix.isSuffixOf s then s.take (s.length - suffix.length) else s

def fileSuffix : Text := ".py"

/-- A text as the name of a test file, or `fallback` for the empty one. -/
def fileName (text fallback : Text) : Text :=
  if text == "" then fallback
  else
    let stem := withoutSuffix fileSuffix text
    let safe := cleaned stem
    let name := if ("test_" : Text).isPrefixOf safe then safe else "test_" ++ safe
    let digest := if name == stem then [] else digestSuffix text
    name ++ digest ++ fileSuffix

end PageScript.Name
