import PageScript.Binary64
import PageScript.Text

namespace PageScript

/-- A piece of data.  The keys of a map are distinct; their order says nothing. -/
inductive Datum where
  | null
  | bool (value : Bool)
  | int (value : Int)
  | float (value : Binary64)
  /-- A date or a time, by what was written. -/
  | moment (written : Text)
  | text (value : Text)
  | bytes (value : List UInt8)
  | list (items : List Datum)
  | map (entries : List (Text × Datum))
  deriving Repr, Inhabited

namespace Datum

/-- The entries with `value` under `key`, in the place of an older one. -/
def put (key : Text) (value : Datum) : List (Text × Datum) → List (Text × Datum)
  | [] => [(key, value)]
  | (k, v) :: rest => if k = key then (key, value) :: rest else (k, v) :: put key value rest

def get? (data : Datum) (key : Text) : Option Datum :=
  match data with
  | .map entries => entries.lookup key
  | _ => none

theorem lookup_put_self (key : Text) (value : Datum) (entries : List (Text × Datum)) :
    (put key value entries).lookup key = some value := by
  induction entries with
  | nil => simp [put]
  | cons entry rest ih =>
      obtain ⟨k, v⟩ := entry
      by_cases h : k = key
      · simp [put, h]
      · have h' : (key == k) = false := by simpa using fun e => h e.symm
        simp [put, h, List.lookup_cons, h', ih]

end Datum

end PageScript
