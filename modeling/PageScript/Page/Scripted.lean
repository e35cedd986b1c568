import PageScript.Page

namespace PageScript.Scripted

structure Element where
  attributes : List (Text × Option Text)
  text? : Option Text
  deriving DecidableEq, Repr

abbrev Elements := List (Text × Element)

/-- The elements with one under a selector, in the place of an older one. -/
def Elements.put (selector : Text) (element : Element) : Elements → Elements
  | [] => [(selector, element)]
  | (other, old) :: rest =>
      if other = selector then (selector, element) :: rest
      else (other, old) :: Elements.put selector element rest

/-- A change of the elements: some are set, and then some are removed. -/
structure Change where
  set : Elements
  remove : List Text
  deriving DecidableEq, Repr

def Change.apply (change : Change) (elements : Elements) : Elements :=
  let changed := change.set.foldl (fun found (selector, element) => found.put selector element)
    elements
  changed.filter fun (selector, _) => !change.remove.contains selector

structure Hook where
  change : Change
  cancels : Bool
  deriving DecidableEq, Repr

/-- A script of a page.  An element is found by exactly the selector it is
listed under; interactions are listed under their word and their selector. -/
structure Script where
  elements : Elements := []
  queryFaults : List (Text × Fault) := []
  attributeFaults : List (Text × Fault) := []
  textFault? : Option Fault := none
  interactionFaults : List (Text × Fault) := []
  hooks : List (Text × Hook) := []
  visitFault? : Option Fault := none
  openFault? : Option Fault := none
  closeFault? : Option Fault := none
  /-- The fault of asking whether the page is closed. -/
  statusFault? : Option Fault := none
  cancelsOnOpen : Bool := false
  deriving DecidableEq, Repr

def word : Interaction → Text
  | .click _ => "click"
  | .fill _ _ => "fill"
  | .select _ _ => "select"
  | .hover _ => "hover"

def listing (interaction : Interaction) : Text :=
  word interaction ++ " " ++ interaction.selector

def raise? : Option Fault → Except Fault Unit
  | none => .ok ()
  | some fault => .error fault

namespace Script

def find (script : Script) (selector : Text) : Except Fault (Option Element) := do
  raise? (script.queryFaults.lookup selector)
  return script.elements.lookup selector

def attributeOf (script : Script) (element : Element) (name : Text) :
    Except Fault (Option Text) := do
  raise? (script.attributeFaults.lookup name)
  return (element.attributes.lookup name).join

def textOf (script : Script) (element : Element) : Except Fault (Option Text) := do
  raise? script.textFault?
  return element.text?

/-- The failure of an interaction with an element that is not there. -/
def timeout (selector : Text) : Failure :=
  ⟨"TimeoutError", "Timeout 10000ms exceeded waiting for " ++ selector⟩

/-- The script after an interaction, and whether the run was cancelled. -/
def perform (script : Script) (interaction : Interaction) : Except Fault (Script × Bool) := do
  raise? (script.interactionFaults.lookup (listing interaction))
  match script.elements.lookup interaction.selector with
  | none => .error (.failure (timeout interaction.selector))
  | some _ =>
      match script.hooks.lookup (listing interaction) with
      | none => return (script, false)
      | some hook =>
          return ({ script with elements := hook.change.apply script.elements }, hook.cancels)

end Script

/-- A call on a page, or the opening of one. -/
inductive Event where
  | opened
  | visited (url : Text)
  | queried (selector : Text)
  | attributeRead (name : Text)
  | textRead
  | performed (interaction : Interaction)
  | closed
  deriving DecidableEq, Repr

structure Stage where
  /-- The scripts of the pages still to be opened; the last one is used again. -/
  coming : List Script
  /-- The pages opened so far. -/
  pages : List Script
  trace : List Event
  cancelled : Bool
  deriving DecidableEq, Repr

namespace Stage

def start (scripts : List Script) (cancelled : Bool) : Stage := ⟨scripts, [], [], cancelled⟩

def page (stage : Stage) (i : Nat) : Script := stage.pages.getD i {}

def reading {α : Type} (i : Nat) (event : Event) (result : Script → Except Fault α) :
    Routine Stage α := fun stage =>
  ⟨result (stage.page i), { stage with trace := stage.trace ++ [event] }, []⟩

def acting (i : Nat) (interaction : Interaction) : Routine Stage Unit := fun stage =>
  let stage := { stage with trace := stage.trace ++ [Event.performed interaction] }
  match (stage.page i).perform interaction with
  | .error fault => ⟨.error fault, stage, []⟩
  | .ok (script, cancels) =>
      ⟨.ok (), { stage with
        pages := stage.pages.set i script
        cancelled := stage.cancelled || cancels }, []⟩

def pageAt (i : Nat) : Page Stage Element where
  visit url := reading i (.visited url) fun script => raise? script.visitFault?
  find selector := reading i (.queried selector) fun script => script.find selector
  attributeOf element name :=
    reading i (.attributeRead name) fun script => script.attributeOf element name
  textOf element := reading i .textRead fun script => script.textOf element
  perform := acting i
  close := reading i .closed fun script => raise? script.closeFault?

/-- The scripts that are left after the next page has been opened. -/
def afterNext : List Script → List Script
  | _ :: script :: rest => script :: rest
  | scripts => scripts

def openPage : Routine Stage (Page Stage Element) := fun stage =>
  let script := stage.coming.headD {}
  let opened : Stage :=
    { stage with coming := afterNext stage.coming, trace := stage.trace ++ [Event.opened] }
  match script.openFault? with
  | some fault => ⟨.error fault, opened, []⟩
  | none =>
      ⟨.ok (pageAt opened.pages.length),
       { opened with
         pages := opened.pages ++ [script]
         cancelled := opened.cancelled || script.cancelsOnOpen }, []⟩

end Stage

end PageScript.Scripted
