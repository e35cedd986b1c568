import PageScript.Browser
import PageScript.Proofs.AttemptedRoutines

namespace PageScript

variable {σ τ ρ η α β : Type}

inductive Part where
  | process
  | browser
  | context
  deriving DecidableEq, Repr

/-- A process, browser or context; those that an engine gives out are numbered. -/
structure Holding where
  part : Part
  number : Nat
  deriving DecidableEq, Repr

/-- A state with all that has been acquired, and the attempts to release it. -/
structure Accounted (σ : Type) where
  world : σ
  acquired : List Holding
  released : List Holding

namespace Accounted

def opened (world : σ) : Accounted σ := ⟨world, [], []⟩

def putWorld (world : σ) (s : Accounted σ) : Accounted σ := { s with world }

/-- What is acquired is numbered in the order of the acquisitions. -/
def take (part : Part) (s : Accounted σ) : Accounted σ :=
  { s with acquired := s.acquired ++ [⟨part, s.acquired.length⟩] }

def release (holding : Holding) (s : Accounted σ) : Accounted σ :=
  { s with released := s.released ++ [holding] }

end Accounted

namespace Routine

/-- Puts on account what the routine gives, unless it fails. -/
def takenAs (part : Part) (routine : Routine σ ρ) : Routine (Accounted σ) (Nat × ρ) := fun s =>
  let ended := routine s.world
  match ended.value with
  | .ok reference =>
      ⟨.ok (s.acquired.length, reference), Accounted.putWorld ended.state (s.take part), ended.log⟩
  | .error fault => ⟨.error fault, Accounted.putWorld ended.state s, ended.log⟩

/-- Puts on account that something is to be released, whether or not that fails. -/
def releasedAs (holding : Holding) (routine : Routine σ Unit) : Routine (Accounted σ) Unit :=
  fun s =>
    let ended := routine s.world
    ⟨ended.value, Accounted.putWorld ended.state (s.release holding), ended.log⟩

theorem takenAs_of_ok {part : Part} {routine : Routine σ ρ} {s : Accounted σ} {reference : ρ}
    (h : (routine s.world).value = .ok reference) :
    routine.takenAs part s = ⟨.ok (s.acquired.length, reference),
      Accounted.putWorld (routine s.world).state (s.take part), (routine s.world).log⟩ := by
  simp only [takenAs, h]

theorem takenAs_of_error {part : Part} {routine : Routine σ ρ} {s : Accounted σ} {fault : Fault}
    (h : (routine s.world).value = .error fault) :
    routine.takenAs part s =
      ⟨.error fault, Accounted.putWorld (routine s.world).state s, (routine s.world).log⟩ := by
  simp only [takenAs, h]

end Routine

def Engine.accounted (engine : Engine σ ρ η) : Engine (Accounted σ) (Nat × ρ) η where
  start := engine.start.takenAs .process
  launch process settings := (engine.launch process.2 settings).takenAs .browser
  newContext browser settings := (engine.newContext browser.2 settings).takenAs .context
  newTab context :=
    Routine.andThen ((engine.newTab context.2).within Accounted.world Accounted.putWorld) fun tab =>
      Routine.done (tab.within Accounted.world Accounted.putWorld)
  closeContext context := (engine.closeContext context.2).releasedAs ⟨.context, context.1⟩
  closeBrowser browser := (engine.closeBrowser browser.2).releasedAs ⟨.browser, browser.1⟩
  stop process := (engine.stop process.2).releasedAs ⟨.process, process.1⟩

namespace Routine

/-- Both are values, which `V` relates, or both are the same error. -/
inductive EndsAlike {ε α' : Type} (V : α' → α → Prop) : Except ε α' → Except ε α → Prop
  | ok {a' : α'} {a : α} (h : V a' a) : EndsAlike V (.ok a') (.ok a)
  | error (problem : ε) : EndsAlike V (.error problem) (.error problem)

/-- On the part, the larger routine does what the other does, and comes to a value that `V`
relates to the value of the other. -/
structure Matches {α' : Type} (part : τ → σ) (V : α' → α → Prop) (larger : Routine τ α')
    (routine : Routine σ α) : Prop where
  value : ∀ t, EndsAlike V (larger t).value (routine (part t)).value
  state : ∀ t, part (larger t).state = (routine (part t)).state
  log : ∀ t, (larger t).log = (routine (part t)).log

namespace Matches

variable {α' β' : Type} {part : τ → σ} {V : α' → α → Prop} {W : β' → β → Prop}
  {larger : Routine τ α'} {routine : Routine σ α}

theorem of_forall (h : ∀ t, EndsAlike V (larger t).value (routine (part t)).value ∧
    part (larger t).state = (routine (part t)).state ∧ (larger t).log = (routine (part t)).log) :
    Matches part V larger routine where
  value t := (h t).1
  state t := (h t).2.1
  log t := (h t).2.2

theorem pure {a' : α'} {a : α} (h : V a' a) :
    Matches part V (pure a' : Routine τ α') (pure a : Routine σ α) where
  value _ := .ok h
  state _ := rfl
  log _ := rfl

theorem logged (level : LogLevel) (message : Text) :
    Matches part Eq (Routine.log level message : Routine τ Unit) (Routine.log level message) where
  value _ := .ok rfl
  state _ := rfl
  log _ := rfl

theorem fail (failure : Failure) :
    Matches part V (Routine.fail failure : Routine τ α') (Routine.fail failure) where
  value _ := .error _
  state _ := rfl
  log _ := rfl

theorem read {f' : τ → α'} {f : σ → α} (h : ∀ t, V (f' t) (f (part t))) :
    Matches part V (Routine.read f') (Routine.read f) where
  value t := .ok (h t)
  state _ := rfl
  log _ := rfl

theorem change {f' : τ → τ} {f : σ → σ} (h : ∀ t, part (f' t) = f (part t)) :
    Matches part Eq (Routine.change f') (Routine.change f) where
  value _ := .ok rfl
  state := h
  log _ := rfl

theorem bind {next' : α' → Routine τ β'} {next : α → Routine σ β}
    (h : Matches part V larger routine)
    (hnext : ∀ a' a, V a' a → Matches part W (next' a') (next a)) :
    Matches part W (larger >>= next') (routine >>= next) := by
  refine of_forall fun t => ?_
  have hvalue := h.value t
  generalize hended' : (larger t).value = ended' at hvalue
  generalize hended : (routine (part t)).value = ended at hvalue
  cases hvalue with
  | error fault =>
      rw [bind_of_error hended', bind_of_error hended]
      exact ⟨.error fault, h.state t, h.log t⟩
  | @ok a' a hV =>
      have hthen := hnext a' a hV
      rw [bind_of_ok hended', bind_of_ok hended, ← h.state t, ← h.log t]
      exact ⟨hthen.value _, hthen.state _, congrArg _ (hthen.log _)⟩

theorem outcome (h : Matches part V larger routine) :
    Matches part (EndsAlike V) larger.outcome routine.outcome where
  value t := by
    have hvalue := h.value t
    generalize hended' : (larger t).value = ended' at hvalue
    generalize hended : (routine (part t)).value = ended at hvalue
    cases hvalue with
    | ok hV =>
        rw [outcome_of_ok hended', outcome_of_ok hended]
        exact .ok (.ok hV)
    | error fault =>
        cases fault with
        | failure failure =>
            rw [outcome_of_failure hended', outcome_of_failure hended]
            exact .ok (.error failure)
        | interrupt message =>
            rw [outcome_of_interrupt hended', outcome_of_interrupt hended]
            exact .error _
  state t := by rw [outcome_state, outcome_state, h.state]
  log t := by rw [outcome_log, outcome_log, h.log]

theorem orElse {handle' : Failure → Routine τ α'} {handle : Failure → Routine σ α}
    (h : Matches part V larger routine)
    (hhandle : ∀ failure, Matches part V (handle' failure) (handle failure)) :
    Matches part V (larger.orElse handle') (routine.orElse handle) := by
  refine h.outcome.bind fun ended' ended hended => ?_
  cases hended with
  | ok hV => exact .pure hV
  | error failure => exact hhandle failure

theorem through {larger : Routine τ α} (h : Matches part Eq larger routine) :
    Extends part (fun _ _ => True) larger routine := by
  intro t
  have hvalue : (larger t).value = (routine (part t)).value := by
    have hended := h.value t
    generalize (larger t).value = ended' at hended
    generalize (routine (part t)).value = ended at hended
    cases hended with
    | ok heq => exact congrArg Except.ok heq
    | error fault => rfl
  refine ⟨?_, trivial⟩
  change (⟨(larger t).value, part (larger t).state, (larger t).log⟩ : Done σ α) = routine (part t)
  rw [hvalue, h.state, h.log]

end Matches

theorem EndsAlike.refl {ε : Type} (ended : Except ε α) : EndsAlike Eq ended ended := by
  cases ended with
  | ok a => exact .ok rfl
  | error problem => exact .error problem

theorem matches_inWorld (routine : Routine σ α) :
    Matches Accounted.world Eq (routine.within Accounted.world Accounted.putWorld) routine where
  value _ := EndsAlike.refl _
  state _ := rfl
  log _ := rfl

theorem matches_takenAs (part : Part) (routine : Routine σ ρ) :
    Matches Accounted.world (fun taken reference => taken.2 = reference) (routine.takenAs part)
      routine := by
  refine .of_forall fun s => ?_
  cases h : (routine s.world).value with
  | ok reference =>
      rw [takenAs_of_ok h]
      exact ⟨.ok rfl, rfl, rfl⟩
  | error fault =>
      rw [takenAs_of_error h]
      exact ⟨.error fault, rfl, rfl⟩

theorem matches_releasedAs (holding : Holding) (routine : Routine σ Unit) :
    Matches Accounted.world Eq (routine.releasedAs holding) routine where
  value _ := EndsAlike.refl _
  state _ := rfl
  log _ := rfl

end Routine

namespace Browser

open Routine

/-- The browser without the account. -/
def bare (b : Browser (Accounted σ) (Nat × ρ)) : Browser σ ρ :=
  ⟨b.engine.world, b.process?.map Prod.snd, b.browser?.map Prod.snd, b.context?.map Prod.snd⟩

theorem matches_onEngine {α' : Type} {V : α' → α → Prop} {larger : Routine (Accounted σ) α'}
    {routine : Routine σ α} (h : Matches Accounted.world V larger routine) :
    Matches (bare (ρ := ρ)) V (onEngine larger) (onEngine routine) where
  value b := h.value b.engine
  state b := congrArg (putEngine · b.bare) (h.state b.engine)
  log b := h.log b.engine

theorem matches_release (what : Text) {held' : Browser (Accounted σ) (Nat × ρ) → Option (Nat × ρ)}
    {held : Browser σ ρ → Option ρ}
    {drop' : Browser (Accounted σ) (Nat × ρ) → Browser (Accounted σ) (Nat × ρ)}
    {drop : Browser σ ρ → Browser σ ρ} {close' : Nat × ρ → Routine (Accounted σ) Unit}
    {close : ρ → Routine σ Unit} (hheld : ∀ b, (held' b).map Prod.snd = held b.bare)
    (hdrop : ∀ b, bare (drop' b) = drop b.bare)
    (hclose : ∀ reference, Matches Accounted.world Eq (close' reference) (close reference.2)) :
    Matches bare Eq (release what held' drop' close') (release what held drop close) := by
  refine (Matches.read (V := fun found' found => found'.map Prod.snd = found) hheld).bind
    fun found' found hfound => ?_
  subst hfound
  cases found' with
  | none => exact .pure rfl
  | some reference =>
      have hreleased := (matches_onEngine (ρ := ρ) (hclose reference)).orElse fun failure =>
        Matches.logged .warning ("Error " ++ what ++ ": " ++ failure.message)
      exact hreleased.bind fun _ _ _ => .change hdrop

variable {engine : Engine σ ρ η} {settings : BrowserSettings}

theorem matches_close : Matches bare Eq (close engine.accounted) (close engine) := by
  refine (matches_release "closing context" (fun _ => rfl) (fun _ => rfl) fun _ =>
    matches_releasedAs _ _).bind fun _ _ _ => ?_
  refine (matches_release "closing browser" (fun _ => rfl) (fun _ => rfl) fun _ =>
    matches_releasedAs _ _).bind fun _ _ _ => ?_
  exact matches_release "stopping playwright" (fun _ => rfl) (fun _ => rfl) fun _ =>
    matches_releasedAs _ _

theorem matches_launch (process : Nat × ρ) :
    Matches bare (fun taken reference => taken.2 = reference)
      (launch engine.accounted settings process) (launch engine settings process.2) := by
  refine (matches_onEngine (matches_takenAs .browser _)).bind fun browser _ hbrowser => ?_
  subst hbrowser
  have hlaunched : Matches bare Eq
      (change fun b : Browser (Accounted σ) (Nat × ρ) => { b with browser? := some browser })
      (change fun b => { b with browser? := some browser.2 }) := .change fun _ => rfl
  refine hlaunched.bind fun _ _ _ => ?_
  refine (matches_onEngine (matches_takenAs .context _)).bind fun context _ hcontext => ?_
  subst hcontext
  have hcreated : Matches bare Eq
      (change fun b : Browser (Accounted σ) (Nat × ρ) => { b with context? := some context })
      (change fun b => { b with context? := some context.2 }) := .change fun _ => rfl
  exact hcreated.bind fun _ _ _ => .pure rfl

theorem matches_start :
    Matches bare (fun taken reference => taken.2 = reference)
      (start engine.accounted settings) (start engine settings) := by
  refine (Matches.read (V := fun found' found => found'.map Prod.snd = found) fun _ => rfl).bind
    fun found' found hfound => ?_
  subst hfound
  cases found' with
  | some context => exact .pure rfl
  | none =>
      refine (Matches.logged _ _).bind fun _ _ _ => ?_
      refine (matches_onEngine (matches_takenAs .process _)).bind fun process _ hprocess => ?_
      subst hprocess
      have hstarted : Matches bare Eq
          (change fun b : Browser (Accounted σ) (Nat × ρ) => { b with process? := some process })
          (change fun b => { b with process? := some process.2 }) := .change fun _ => rfl
      refine hstarted.bind fun _ _ _ => ?_
      refine (matches_launch process).orElse fun failure => ?_
      exact matches_close.bind fun _ _ _ => .fail failure

theorem accounted_newTab (context : Nat × ρ) : engine.accounted.newTab context =
    ((engine.newTab context.2).within Accounted.world Accounted.putWorld >>= fun tab =>
      pure (tab.within Accounted.world Accounted.putWorld)) := rfl

theorem matches_newTab (context : Nat × ρ) :
    Matches Accounted.world (fun tab' tab => tab' = tab.within Accounted.world Accounted.putWorld)
      (engine.accounted.newTab context) (engine.newTab context.2) := by
  refine .of_forall fun s => ?_
  rw [accounted_newTab]
  cases h : (engine.newTab context.2 s.world).value with
  | ok tab =>
      have hwithin : ((engine.newTab context.2).within Accounted.world Accounted.putWorld s).value =
          .ok tab := h
      rw [bind_of_ok hwithin]
      exact ⟨.ok rfl, rfl, List.append_nil _⟩
  | error fault =>
      have hwithin : ((engine.newTab context.2).within Accounted.world Accounted.putWorld s).value =
          .error fault := h
      rw [bind_of_error hwithin]
      exact ⟨.error fault, rfl, rfl⟩

theorem matches_openPage :
    Matches bare (fun _ _ => True) (openPage engine.accounted settings)
      (openPage engine settings) := by
  refine matches_start.bind fun context _ hcontext => ?_
  subst hcontext
  refine (matches_onEngine (matches_newTab context)).bind fun _ tab htab => ?_
  subst htab
  refine (matches_onEngine (matches_inWorld (tab.setTimeout _))).bind fun _ _ _ => ?_
  refine (matches_onEngine (matches_inWorld (tab.setNavigationTimeout _))).bind fun _ _ _ => ?_
  exact .pure trivial

inductive Operation where
  | start
  | openPage
  | close
  /-- The end of a block that uses the browser, with or without an exception. -/
  | exit
  deriving DecidableEq, Repr

def operate (engine : Engine σ ρ η) (settings : BrowserSettings) :
    Operation → Routine (Browser σ ρ) Unit
  | .start => do
      let _ ← Browser.start engine settings
      return ()
  | .openPage => do
      let _ ← Browser.openPage engine settings
      return ()
  | .close | .exit => Browser.close engine

/-- One operation after another, each whatever the ones before it have come to. -/
def operateAll (engine : Engine σ ρ η) (settings : BrowserSettings) (operations : List Operation) :
    Routine (Browser σ ρ) (List (Except Fault Unit)) :=
  attemptAll (operations.map (operate engine settings))

theorem matches_operate (operation : Operation) :
    Matches bare Eq (operate engine.accounted settings operation)
      (operate engine settings operation) := by
  cases operation with
  | start => exact matches_start.bind fun _ _ _ => .pure rfl
  | openPage => exact matches_openPage.bind fun _ _ _ => .pure rfl
  | close => exact matches_close
  | exit => exact matches_close

theorem operateAll_accounted (operations : List Operation) (b : Browser (Accounted σ) (Nat × ρ)) :
    (operateAll engine.accounted settings operations b).through bare =
      operateAll engine settings operations b.bare := by
  have hall : List.Forall₂ (Extends bare fun _ _ => True)
      (operations.map (operate engine.accounted settings))
      (operations.map (operate engine settings)) := by
    rw [List.forall₂_map_left_iff, List.forall₂_map_right_iff, List.forall₂_same]
    exact fun operation _ => (matches_operate operation).through
  exact (attemptAll_extends (fun _ => trivial) (fun _ _ _ _ _ => trivial) hall b).1

end Browser

end PageScript
