import PageScript.Text.Digit
/-!
Dates and times as data files write them.  The form alone makes a text a date;
whether there is such a day is asked afterwards.
-/

namespace PageScript

structure TimeOffset where
  isWest : Bool
  hours : Nat
  minutes : Nat
  deriving DecidableEq, Repr

/-- The time of a day; an offset of none is not told. -/
structure TimeOfDay where
  hour : Nat
  minute : Nat
  second : Nat
  offset? : Option TimeOffset
  deriving DecidableEq, Repr

/-- A date, and at times a time, by the numbers that are written. -/
structure Moment where
  year : Nat
  month : Nat
  day : Nat
  time? : Option TimeOfDay
  deriving DecidableEq, Repr

namespace Moment

inductive Error where
  | year (n : Nat)
  | month
  | day
  | hour
  | minute
  | second
  /-- The offset is a day or more. -/
  | offset (amount : TimeOffset)
  deriving DecidableEq, Repr

/-- The whole days of an offset to the east, and the seconds that are left. -/
def daysAndSeconds (offset : TimeOffset) : Int × Int :=
  let seconds : Int := offset.hours * 3600 + offset.minutes * 60
  let signed := if offset.isWest then -seconds else seconds
  (signed.fdiv 86400, signed.fmod 86400)

def Error.message : Error → Text
  | .year n => "year " ++ toString n ++ " is out of range"
  | .month => "month must be in 1..12"
  | .day => "day is out of range for month"
  | .hour => "hour must be in 0..23"
  | .minute => "minute must be in 0..59"
  | .second => "second must be in 0..59"
  | .offset amount =>
      let (days, seconds) := daysAndSeconds amount
      "offset must be a timedelta strictly between -timedelta(hours=24) and timedelta(hours=24), not " ++
        "datetime.timedelta(days=" ++ toString days ++
        (if seconds = 0 then "" else ", seconds=" ++ toString seconds) ++ ")."

def isLeap (year : Nat) : Bool := year % 4 == 0 && (year % 100 != 0 || year % 400 == 0)

def daysIn (year month : Nat) : Nat :=
  if month == 2 then (if isLeap year then 29 else 28)
  else if month == 4 || month == 6 || month == 9 || month == 11 then 30
  else 31

def checkDate (moment : Moment) : Except Error Unit :=
  if moment.year = 0 then .error (.year moment.year)
  else if moment.month < 1 ∨ 12 < moment.month then .error .month
  else if moment.day < 1 ∨ daysIn moment.year moment.month < moment.day then .error .day
  else .ok ()

def checkOffset (time : TimeOfDay) : Except Error Unit :=
  match time.offset? with
  | none => .ok ()
  | some offset =>
      if offset.hours * 60 + offset.minutes < 24 * 60 then .ok () else .error (.offset offset)

def checkTime (time : TimeOfDay) : Except Error Unit :=
  if 23 < time.hour then .error .hour
  else if 59 < time.minute then .error .minute
  else if 59 < time.second then .error .second
  else .ok ()

def check (moment : Moment) : Except Error Unit :=
  match moment.time? with
  | none => moment.checkDate
  | some time => do
      checkOffset time
      moment.checkDate
      checkTime time

/-- Reads a number of at least `least` and at most `most` digits. -/
def number? (least most : Nat) (s : Text) : Option (Nat × Text) :=
  let digits := (s.takeWhile CodePoint.isDigit).take most
  if digits.length < least then none else some (Text.numberOf digits, s.drop digits.length)

def sign? (c : CodePoint) : Text → Option Text
  | d :: s => if d == c then some s else none
  | [] => none

/-- Reads what stands between a date and a time: a letter or blanks. -/
def timeSign? : Text → Option Text
  | [] => none
  | c :: s =>
      if c == 'T' || c == 't' then some s
      else if c == ' ' || c == '\t' then some (s.dropWhile fun c : CodePoint => c == ' ' || c == '\t')
      else none

def dropFraction : Text → Text
  | .char '.' :: s => s.dropWhile CodePoint.isDigit
  | s => s

def offsetOfText? (s : Text) : Option TimeOffset :=
  match s.dropWhile fun c : CodePoint => c == ' ' || c == '\t' with
  | [.char 'Z'] => some ⟨false, 0, 0⟩
  | c :: s =>
      if c == '+' || c == '-' then
        match number? 1 2 s with
        | some (hours, []) => some ⟨c == '-', hours, 0⟩
        | some (hours, .char ':' :: s) =>
            match number? 2 2 s with
            | some (minutes, []) => some ⟨c == '-', hours, minutes⟩
            | _ => none
        | _ => none
      else none
  | [] => none

def timeOfText? (s : Text) : Option TimeOfDay := do
  let (hour, s) ← number? 1 2 s
  let (minute, s) ← number? 2 2 (← sign? ':' s)
  let (second, s) ← number? 2 2 (← sign? ':' s)
  match dropFraction s with
  | [] => return ⟨hour, minute, second, none⟩
  | s => return ⟨hour, minute, second, some (← offsetOfText? s)⟩

/-- Reads a date whose month and day have one digit or two, on its own or with a
time. -/
def ofText? (s : Text) : Option Moment := do
  let (year, s) ← number? 4 4 s
  let (month, s) ← number? 1 2 (← sign? '-' s)
  let (day, s) ← number? 1 2 (← sign? '-' s)
  if s.isEmpty then return ⟨year, month, day, none⟩
  else return ⟨year, month, day, some (← timeOfText? (← timeSign? s))⟩

/-- Whether a text is a moment by its form alone: a date on its own has ten
characters. -/
def isWritten (s : Text) : Bool :=
  (ofText? s).any fun moment => moment.time?.isSome || s.length == 10

end Moment

end PageScript
