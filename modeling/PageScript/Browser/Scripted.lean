import PageScript.Browser.Engine
import PageScript.Page.Scripted

namespace PageScript.Scripted

inductive EngineCall where
  | start
  | launch
  | newContext
  | newTab
  | closeContext
  | closeBrowser
  | stop
  deriving DecidableEq, Repr

/-- A call on an engine or on a tab.  References are numbered as they are given
out. -/
inductive EngineEvent where
  | started
  | launched (process : Nat) (settings : LaunchSettings)
  | contextCreated (browser : Nat) (settings : ContextSettings)
  | tabOpened (context : Nat)
  | contextClosed (context : Nat)
  | browserClosed (browser : Nat)
  | stopped (process : Nat)
  | timeoutSet (milliseconds : Int)
  | navigationTimeoutSet (milliseconds : Int)
  | visited (url waitUntil : Text) (timeout : Int)
  | queried (selector : Text)
  | performed (interaction : Interaction) (timeout : Int)
  | statusAsked
  | tabClosed
  deriving DecidableEq, Repr

/-- Where a scripted engine stands. -/
structure Rig where
  script : Script
  faults : List (EngineCall × Fault)
  /-- The tabs opened so far, each with whether it is closed. -/
  tabs : List (Script × Bool)
  /-- The number of references given out. -/
  references : Nat
  trace : List EngineEvent
  deriving DecidableEq, Repr

namespace Rig

def start (script : Script) (faults : List (EngineCall × Fault)) : Rig := ⟨script, faults, [], 0, []⟩

def record (rig : Rig) (event : EngineEvent) : Rig := { rig with trace := rig.trace ++ [event] }

/-- Records a call on the engine, which then may fail. -/
def call (call : EngineCall) (event : EngineEvent) : Routine Rig Unit := fun rig =>
  ⟨raise? (rig.faults.lookup call), rig.record event, []⟩

def newReference : Routine Rig Nat := fun rig =>
  ⟨.ok rig.references, { rig with references := rig.references + 1 }, []⟩

def tab (rig : Rig) (i : Nat) : Script × Bool := rig.tabs.getD i ({}, false)

def reading {α : Type} (i : Nat) (event : EngineEvent) (result : Script → Except Fault α) :
    Routine Rig α := fun rig =>
  ⟨result (rig.tab i).1, rig.record event, []⟩

/-- A reading that is not recorded. -/
def peeking {α : Type} (i : Nat) (result : Script → Except Fault α) : Routine Rig α := fun rig =>
  ⟨result (rig.tab i).1, rig, []⟩

def acting (i : Nat) (interaction : Interaction) (timeout : Int) : Routine Rig Unit := fun rig =>
  let rig := rig.record (.performed interaction timeout)
  match (rig.tab i).1.perform interaction with
  | .error fault => ⟨.error fault, rig, []⟩
  | .ok (script, _) => ⟨.ok (), { rig with tabs := rig.tabs.set i (script, (rig.tab i).2) }, []⟩

def status (i : Nat) : Routine Rig Bool := fun rig =>
  ⟨(raise? (rig.tab i).1.statusFault?).map fun _ => (rig.tab i).2, rig.record .statusAsked, []⟩

/-- Closes a tab; if that fails, the tab is closed all the same. -/
def closeTab (i : Nat) : Routine Rig Unit := fun rig =>
  let (script, _) := rig.tab i
  ⟨raise? script.closeFault?,
   { rig.record .tabClosed with tabs := rig.tabs.set i (script, true) }, []⟩

def tabAt (i : Nat) : Tab Rig Element where
  setTimeout milliseconds := reading i (.timeoutSet milliseconds) fun _ => .ok ()
  setNavigationTimeout milliseconds :=
    reading i (.navigationTimeoutSet milliseconds) fun _ => .ok ()
  visit url waitUntil timeout :=
    reading i (.visited url waitUntil timeout) fun script => raise? script.visitFault?
  find selector := reading i (.queried selector) fun script => script.find selector
  attributeOf element name := peeking i fun script => script.attributeOf element name
  textOf element := peeking i fun script => script.textOf element
  perform := acting i
  isClosed := status i
  close := closeTab i

/-- A tab that belongs to no context. -/
def looseTab : Routine Rig (Tab Rig Element) := fun rig =>
  ⟨.ok (tabAt rig.tabs.length), { rig with tabs := rig.tabs ++ [(rig.script, false)] }, []⟩

end Rig

def engine : Engine Rig Nat Element where
  start := do
    Rig.call .start .started
    Rig.newReference
  launch process settings := do
    Rig.call .launch (.launched process settings)
    Rig.newReference
  newContext browser settings := do
    Rig.call .newContext (.contextCreated browser settings)
    Rig.newReference
  newTab context := do
    Rig.call .newTab (.tabOpened context)
    Rig.looseTab
  closeContext context := Rig.call .closeContext (.contextClosed context)
  closeBrowser browser := Rig.call .closeBrowser (.browserClosed browser)
  stop process := Rig.call .stop (.stopped process)

end PageScript.Scripted
