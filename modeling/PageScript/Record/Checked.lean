import PageScript.Datum
import PageScript.Record.Dump
import PageScript.Record.Issue
import PageScript.Record.Numeral
import PageScript.Text.Utf8

namespace PageScript.Record

/-- A value, or everything that is wrong with the data it was to be read from. -/
inductive Checked (α : Type) where
  | valid (value : α)
  | invalid (issues : List Issue)
  deriving Repr

namespace Checked

def map {α β : Type} (f : α → β) : Checked α → Checked β
  | valid a => valid (f a)
  | invalid issues => invalid issues

def seq {α β : Type} (f : Checked (α → β)) (x : Unit → Checked α) : Checked β :=
  match f, x () with
  | valid f, valid a => valid (f a)
  | valid _, invalid issues => invalid issues
  | invalid issues, valid _ => invalid issues
  | invalid issues, invalid more => invalid (issues ++ more)

instance : Applicative Checked where
  map := map
  pure := valid
  seq := seq

/-- The second check, on what the first one finds. -/
def andThen {α β : Type} (first : Checked α) (next : α → Checked β) : Checked β :=
  match first with
  | valid a => next a
  | invalid issues => invalid issues

/-- The same issues, further inside the data. -/
def within {α : Type} (step : PathStep) : Checked α → Checked α
  | valid a => valid a
  | invalid issues => invalid (issues.map fun issue => { issue with path := step :: issue.path })

def refuse {α : Type} (cause : Cause) : Checked α := invalid [⟨[], cause⟩]

end Checked

abbrev Reader (α : Type) := Datum → Checked α

abbrev Entries := List (Text × Datum)

/-- The entry of a field: that under its label, or else that under its name. -/
def Entries.find? (entries : Entries) (key : Key) : Option (Text × Datum) :=
  match entries.lookup key.label with
  | some data => some (key.label, data)
  | none => (entries.lookup key.name).map fun data => (key.name, data)

namespace Reader

def text : Reader Text
  | .text s => .valid s
  | .bytes bytes =>
      match Text.ofUtf8? bytes with
      | some s => .valid s
      | none => .refuse .noUnicode
  | _ => .refuse .noText

/-- Nothing, or what `read` reads. -/
def nullable {α : Type} (read : Reader α) : Reader (Option α)
  | .null => .valid none
  | data => (read data).map some

def itemsFrom {α : Type} (read : Reader α) (i : Nat) : List Datum → Checked (List α)
  | [] => .valid []
  | item :: rest =>
      List.cons <$> (read item).within (.index i) <*> itemsFrom read (i + 1) rest

def list {α : Type} (read : Reader α) : Reader (List α)
  | .list found => itemsFrom read 0 found
  | _ => .refuse .noList

/-- A text without surrogates. -/
def characters (s : Text) : Checked Text :=
  if (Text.unencodable? s).isSome then .refuse .noUnicode else .valid s

/-- One of the words of a table. -/
def word {α : Type} (cause : List Text → Cause) (table : List (Text × α)) : Reader α
  | .text s =>
      (characters s).andThen fun s =>
        match table.lookup s with
        | some a => .valid a
        | none => .refuse (cause (table.map Prod.fst))
  | _ => .refuse (cause (table.map Prod.fst))

def intOfFloat (x : Binary64) : Checked Int :=
  if Binary64.infinityBits ≤ x.magnitude then .refuse .noFinite
  else
    match x.toInt? with
    | none => .refuse .intWithFraction
    | some n => if -0x8000000000000000 < n && n < 0x8000000000000000 then .valid n
        else .refuse .intTooLong

def intOfText (s : Text) : Checked Int :=
  match Numeral.read s with
  | .ok n => .valid n
  | .error .malformed => .refuse .intUnreadable
  | .error .tooLong => .refuse .intTooLong

/-- An integer, or what stands for one: a truth value, a number without a
fraction, a text. -/
def int : Reader Int
  | .int n => .valid n
  | .bool b => .valid (if b then 1 else 0)
  | .float x => intOfFloat x
  | .text s => (characters s).andThen intOfText
  | .bytes bytes =>
      match Text.ofUtf8? bytes with
      | some s => intOfText s
      | none => .refuse .intUnreadable
  | _ => .refuse .noInt

/-- The truth value of a number of at most sixty-four bits. -/
def boolOfInt (n : Int) : Checked Bool :=
  if n = 0 then .valid false
  else if n = 1 then .valid true
  else if n < -0x8000000000000000 ∨ 0x8000000000000000 ≤ n then .refuse .noBool
  else .refuse .boolUnreadable

def trueWords : List Text := ["1", "on", "t", "true", "y", "yes"]

def falseWords : List Text := ["0", "off", "f", "false", "n", "no"]

/-- The truth value that a word in any case stands for. -/
def boolOfText (s : Text) : Checked Bool :=
  let word := s.map CodePoint.toLower
  if trueWords.contains word then .valid true
  else if falseWords.contains word then .valid false
  else .refuse .boolUnreadable

/-- A truth value, or what stands for one: a zero or a one, a word. -/
def bool : Reader Bool
  | .bool b => .valid b
  | .int n => boolOfInt n
  | .float x =>
      match intOfFloat x with
      | .valid n => boolOfInt n
      | .invalid _ => .refuse .noBool
  | .text s => (characters s).andThen boolOfText
  | .bytes bytes =>
      match Text.ofUtf8? bytes with
      | some s => boolOfText s
      | none => .refuse .boolUnreadable
  | _ => .refuse .noBool

/-- A record of the kind `title`. -/
def record {α : Type} (title : Text) (body : Entries → Checked α) : Reader α
  | .map entries => body entries
  | _ => .refuse (.noRecord title)

end Reader

/-- A field that has to be there.  A missing field is told by its label, any
other issue by the key that was found. -/
def required {α : Type} (key : Key) (read : Reader α) (entries : Entries) : Checked α :=
  match entries.find? key with
  | some (used, data) => (read data).within (.key used)
  | none => (Checked.refuse .missing).within (.key key.label)

/-- A field that may be left out. -/
def optional {α : Type} (key : Key) (default : α) (read : Reader α) (entries : Entries) :
    Checked α :=
  match entries.find? key with
  | some (used, data) => (read data).within (.key used)
  | none => .valid default

/-- Reads a whole piece of data, or tells what kind of record it is not. -/
def readAs {α : Type} (title : Text) (read : Reader α) (data : Datum) : Except Mismatch α :=
  match read data with
  | .valid a => .ok a
  | .invalid issues => .error ⟨title, issues⟩

end PageScript.Record
