import PageScript.Datum.Yaml
import PageScript.Scenario.Record

namespace PageScript.Scenario.File

open Record

inductive Error where
  | unreadable (found : Datum.Yaml.Error)
  | noMap
  | mismatch (found : Mismatch)
  deriving DecidableEq, Repr

/-- What an error says about the file with a path.  A text that is YAML but holds what
cannot be read speaks for itself. -/
def Error.message (path : Text) : Error → Text
  | .unreadable .malformed => path ++ ": " ++ Datum.Yaml.Error.malformed.message
  | .unreadable found => found.message
  | .noMap => path ++ ": expected a scenario mapping"
  | .mismatch found => path ++ ": " ++ found.headline

/-- The part of a path behind its last slash. -/
def baseName (path : Text) : Text := (path.reverse.takeWhile (· != .char '/')).reverse

/-- A file name without its extension.  The full stops that a name begins with
begin no extension. -/
def withoutExtension (name : Text) : Text :=
  match name.reverse.dropWhile (· != .char '.') with
  | [] => name
  | _ :: stem => if stem.all (· == .char '.') then name else stem.reverse

/-- The id of a scenario that has none of its own. -/
def idOf (path : Text) : Text := withoutExtension (baseName path)

def withId (path : Text) (entries : List (Text × Datum)) : List (Text × Datum) :=
  if (entries.lookup idKey.name).isSome then entries
  else entries ++ [(idKey.name, .text (idOf path))]

def ofDatum (path : Text) : Datum → Except Error Scenario
  | .map entries => (Scenario.ofDatum (.map (withId path entries))).mapError .mismatch
  | _ => .error .noMap

/-- The levels of data that tell about a scenario: its parts, the steps among them, the
parts of a step, and what kind of data these are. -/
def depth : Nat := 4

/-- Reads the text of the file with a path. -/
def read (path text : Text) : Except Error Scenario := do
  ofDatum path (← (Datum.Yaml.read depth text).mapError .unreadable)

end PageScript.Scenario.File
