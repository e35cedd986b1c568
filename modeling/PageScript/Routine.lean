import PageScript.Text
/-!
Routines: work on a state that can fail, can be interrupted, and writes a log.
Whatever happens, the state and the log are as the routine left them.
-/

namespace PageScript

inductive LogLevel where
  | debug
  | info
  | warning
  | error
  deriving DecidableEq, Repr

namespace LogLevel

def label : LogLevel → Text
  | .debug => "DEBUG"
  | .info => "INFO"
  | .warning => "WARNING"
  | .error => "ERROR"

def rank : LogLevel → Nat
  | .debug => 10
  | .info => 20
  | .warning => 30
  | .error => 40

end LogLevel

structure LogRecord where
  level : LogLevel
  message : Text
  deriving DecidableEq, Repr

def LogRecord.line (record : LogRecord) : Text := record.level.label ++ " " ++ record.message

/-- An ordinary failure: what kind it is, and what it says. -/
structure Failure where
  kind : Text
  message : Text
  deriving DecidableEq, Repr

/-- What a failure is called in a report: its message, or its kind if it says
nothing. -/
def Failure.summary (failure : Failure) : Text :=
  if failure.message = "" then failure.kind else failure.message

/-- Why a routine ends without a value.  An interrupt comes from the user and is
nobody's failure. -/
inductive Fault where
  | failure (failure : Failure)
  | interrupt (message : Text)
  deriving DecidableEq, Repr

structure Done (σ α : Type) where
  value : Except Fault α
  state : σ
  log : List LogRecord

/-- Work on a state of type `σ` for a value of type `α`. -/
def Routine (σ α : Type) : Type := σ → Done σ α

namespace Routine

variable {σ τ α β : Type}

def done (a : α) : Routine σ α := fun s => ⟨.ok a, s, []⟩

/-- One routine after another; the second is left out if the first has no value. -/
def andThen (first : Routine σ α) (next : α → Routine σ β) : Routine σ β := fun s =>
  let a := first s
  match a.value with
  | .error fault => ⟨.error fault, a.state, a.log⟩
  | .ok value =>
      let b := next value a.state
      ⟨b.value, b.state, a.log ++ b.log⟩

instance : Monad (Routine σ) where
  pure := done
  bind := andThen

def stop (fault : Fault) : Routine σ α := fun s => ⟨.error fault, s, []⟩

def fail (failure : Failure) : Routine σ α := stop (.failure failure)

def log (level : LogLevel) (message : Text) : Routine σ Unit := fun s =>
  ⟨.ok (), s, [⟨level, message⟩]⟩

/-- A value read off the state. -/
def read (f : σ → α) : Routine σ α := fun s => ⟨.ok (f s), s, []⟩

def change (f : σ → σ) : Routine σ Unit := fun s => ⟨.ok (), f s, []⟩

/-- The way a routine ends, as a value. -/
def attempt (routine : Routine σ α) : Routine σ (Except Fault α) := fun s =>
  let a := routine s
  ⟨.ok a.value, a.state, a.log⟩

/-- The way a routine ends, with a value or a failure; an interrupt goes through. -/
def outcome (routine : Routine σ α) : Routine σ (Except Failure α) := fun s =>
  let a := routine s
  match a.value with
  | .ok value => ⟨.ok (.ok value), a.state, a.log⟩
  | .error (.failure failure) => ⟨.ok (.error failure), a.state, a.log⟩
  | .error (.interrupt message) => ⟨.error (.interrupt message), a.state, a.log⟩

/-- Goes on with `handle` after a failure; an interrupt goes through. -/
def orElse (routine : Routine σ α) (handle : Failure → Routine σ α) : Routine σ α :=
  andThen (outcome routine) fun
    | .ok value => done value
    | .error failure => handle failure

/-- Does `cleanup` after the routine, however that ends.  A fault of the cleanup
outranks one of the routine. -/
def finally_ (routine : Routine σ α) (cleanup : Routine σ Unit) : Routine σ α :=
  andThen (attempt routine) fun value =>
    andThen cleanup fun _ =>
      match value with
      | .ok a => done a
      | .error fault => stop fault

/-- A routine on a part of a larger state. -/
def within (part : τ → σ) (put : σ → τ → τ) (routine : Routine σ α) : Routine τ α := fun t =>
  let a := routine (part t)
  ⟨a.value, put a.state t, a.log⟩

@[simp] theorem done_apply (a : α) (s : σ) : done a s = ⟨.ok a, s, []⟩ := rfl

@[simp] theorem pure_apply (a : α) (s : σ) : (pure a : Routine σ α) s = ⟨.ok a, s, []⟩ := rfl

theorem bind_eq (first : Routine σ α) (next : α → Routine σ β) :
    (first >>= next) = andThen first next := rfl

end Routine

end PageScript
