import PageScript.Browser.Engine

namespace PageScript

structure BrowserSettings where
  headless : Bool
  ignoreHttpsErrors : Bool
  navigationTimeout : Int
  stepTimeout : Int
  deriving DecidableEq, Repr

def BrowserSettings.standard : BrowserSettings := ⟨true, false, 30000, 10000⟩

/-- An engine's state, and what is held of the engine. -/
structure Browser (σ ρ : Type) where
  engine : σ
  process? : Option ρ
  browser? : Option ρ
  context? : Option ρ
  deriving Repr

namespace Browser

variable {σ ρ η α : Type}

def idle (engine : σ) : Browser σ ρ := ⟨engine, none, none, none⟩

def putEngine (engine : σ) (browser : Browser σ ρ) : Browser σ ρ := { browser with engine }

def onEngine (routine : Routine σ α) : Routine (Browser σ ρ) α :=
  routine.within Browser.engine putEngine

/-- Releases something that is held.  A failure is logged; an interrupt leaves it
held. -/
def release (what : Text) (held : Browser σ ρ → Option ρ)
    (drop : Browser σ ρ → Browser σ ρ) (close : ρ → Routine σ Unit) :
    Routine (Browser σ ρ) Unit := do
  match ← Routine.read held with
  | none => return ()
  | some reference =>
      (onEngine (close reference)).orElse fun failure =>
        Routine.log .warning ("Error " ++ what ++ ": " ++ failure.message)
      Routine.change drop

/-- Releases all that is held: the context, the browser, and the process. -/
def close (engine : Engine σ ρ η) : Routine (Browser σ ρ) Unit := do
  release "closing context" Browser.context? (fun b => { b with context? := none })
    engine.closeContext
  release "closing browser" Browser.browser? (fun b => { b with browser? := none })
    engine.closeBrowser
  release "stopping playwright" Browser.process? (fun b => { b with process? := none })
    engine.stop

def launchSettings (settings : BrowserSettings) : LaunchSettings :=
  ⟨settings.headless, ["--no-sandbox", "--disable-setuid-sandbox"]⟩

def contextSettings (settings : BrowserSettings) : ContextSettings :=
  ⟨1280, 720, settings.ignoreHttpsErrors⟩

def launch (engine : Engine σ ρ η) (settings : BrowserSettings) (process : ρ) :
    Routine (Browser σ ρ) ρ := do
  let browser ← onEngine (engine.launch process (launchSettings settings))
  Routine.change fun b => { b with browser? := some browser }
  let context ← onEngine (engine.newContext browser (contextSettings settings))
  Routine.change fun b => { b with context? := some context }
  return context

def word (b : Bool) : Text := if b then "True" else "False"

/-- The context, which is created now if there is none.  If that fails, all that
was started for it is released. -/
def start (engine : Engine σ ρ η) (settings : BrowserSettings) :
    Routine (Browser σ ρ) ρ := do
  match ← Routine.read Browser.context? with
  | some context => return context
  | none =>
      Routine.log .info ("Launching chromium (headless=" ++ word settings.headless ++ ")...")
      let process ← onEngine engine.start
      Routine.change fun b => { b with process? := some process }
      (launch engine settings process).orElse fun failure => do
        close engine
        Routine.fail failure

def patience (settings : BrowserSettings) : Patience :=
  { Patience.standard with
    navigation := settings.navigationTimeout
    step := settings.stepTimeout }

def openPage (engine : Engine σ ρ η) (settings : BrowserSettings) :
    Routine (Browser σ ρ) (Page (Browser σ ρ) η) := do
  let context ← start engine settings
  let tab ← onEngine (engine.newTab context)
  onEngine (tab.setTimeout settings.stepTimeout)
  onEngine (tab.setNavigationTimeout settings.navigationTimeout)
  return (tab.page (patience settings)).within Browser.engine putEngine

/-- Does something with a browser that is started before and released after it,
whatever happens. -/
def during (engine : Engine σ ρ η) (settings : BrowserSettings)
    (routine : Routine (Browser σ ρ) α) : Routine (Browser σ ρ) α := do
  let _ ← start engine settings
  routine.finally_ (close engine)

end Browser

end PageScript
