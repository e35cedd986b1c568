import PageScript.Page

namespace PageScript

structure LaunchSettings where
  headless : Bool
  arguments : List Text
  deriving DecidableEq, Repr

/-- How a context, which isolates its tabs from all others, is created. -/
structure ContextSettings where
  width : Nat
  height : Nat
  ignoreHttpsErrors : Bool
  deriving DecidableEq, Repr

/-- A tab of a browser.  Times are in milliseconds. -/
structure Tab (σ η : Type) where
  setTimeout : Int → Routine σ Unit
  setNavigationTimeout : Int → Routine σ Unit
  /-- Loads an address, waiting for an event at most some time. -/
  visit : Text → Text → Int → Routine σ Unit
  find : Text → Routine σ (Option η)
  attributeOf : η → Text → Routine σ (Option Text)
  textOf : η → Routine σ (Option Text)
  perform : Interaction → Int → Routine σ Unit
  isClosed : Routine σ Bool
  close : Routine σ Unit

/-- An engine.  The processes, browsers and contexts that it starts are known by
references of type `ρ`. -/
structure Engine (σ ρ η : Type) where
  start : Routine σ ρ
  launch : ρ → LaunchSettings → Routine σ ρ
  newContext : ρ → ContextSettings → Routine σ ρ
  newTab : ρ → Routine σ (Tab σ η)
  closeContext : ρ → Routine σ Unit
  closeBrowser : ρ → Routine σ Unit
  stop : ρ → Routine σ Unit

variable {σ τ ρ η : Type}

/-- The same tab as part of a larger state. -/
def Tab.within (part : τ → σ) (put : σ → τ → τ) (tab : Tab σ η) : Tab τ η where
  setTimeout milliseconds := (tab.setTimeout milliseconds).within part put
  setNavigationTimeout milliseconds := (tab.setNavigationTimeout milliseconds).within part put
  visit url waitUntil timeout := (tab.visit url waitUntil timeout).within part put
  find selector := (tab.find selector).within part put
  attributeOf element name := (tab.attributeOf element name).within part put
  textOf element := (tab.textOf element).within part put
  perform interaction timeout := (tab.perform interaction timeout).within part put
  isClosed := tab.isClosed.within part put
  close := tab.close.within part put

def Engine.within (part : τ → σ) (put : σ → τ → τ) (engine : Engine σ ρ η) : Engine τ ρ η where
  start := engine.start.within part put
  launch process settings := (engine.launch process settings).within part put
  newContext browser settings := (engine.newContext browser settings).within part put
  newTab context :=
    Routine.andThen ((engine.newTab context).within part put) fun tab =>
      Routine.done (tab.within part put)
  closeContext context := (engine.closeContext context).within part put
  closeBrowser browser := (engine.closeBrowser browser).within part put
  stop process := (engine.stop process).within part put

/-- How long a page waits, and for what after a navigation. -/
structure Patience where
  navigation : Int
  step : Int
  waitUntil : Text
  deriving DecidableEq, Repr

def Patience.standard : Patience := ⟨30000, 10000, "networkidle"⟩

/-- A tab as a page.  Closing it never fails: what goes wrong is logged. -/
def Tab.page (tab : Tab σ η) (patience : Patience) : Page σ η where
  visit url := do
    Routine.log .info ("Navigating to " ++ url ++ "...")
    tab.visit url patience.waitUntil patience.navigation
  find := tab.find
  attributeOf := tab.attributeOf
  textOf := tab.textOf
  perform interaction := tab.perform interaction patience.step
  close :=
    Routine.orElse
      (do
        let closed ← tab.isClosed
        if closed then return () else tab.close)
      fun failure => Routine.log .warning ("Error closing page: " ++ failure.message)

end PageScript
