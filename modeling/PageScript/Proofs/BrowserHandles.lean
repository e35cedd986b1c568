import Mathlib.Data.List.Nodup
import PageScript.Proofs.AccountedEngine
import PageScript.Proofs.ReplayedPage
import PageScript.Proofs.RoutineContracts

namespace PageScript

open Routine

variable {σ ρ η α : Type}

/-- Launching a browser, creating a context, and all releases may fail, but are not interrupted. -/
structure Engine.IsCalm (engine : Engine σ ρ η) : Prop where
  launch : ∀ process settings, Calm (fun _ => True) (engine.launch process settings)
  newContext : ∀ browser settings, Calm (fun _ => True) (engine.newContext browser settings)
  closeContext : ∀ context, Calm (fun _ => True) (engine.closeContext context)
  closeBrowser : ∀ browser, Calm (fun _ => True) (engine.closeBrowser browser)
  stop : ∀ process, Calm (fun _ => True) (engine.stop process)

theorem Routine.Calm.isFailure {routine : Routine σ α} (h : Calm (fun _ => True) routine) {s : σ}
    {fault : Fault} (hfault : (routine s).value = .error fault) : fault.IsFailure :=
  (calm_iff_faults.mp h).fault s trivial fault hfault

namespace Browser

def handle? (b : Browser σ ρ) : Part → Option ρ
  | .process => b.process?
  | .browser => b.browser?
  | .context => b.context?

def hold (part : Part) (reference : ρ) (b : Browser σ ρ) : Browser σ ρ :=
  match part with
  | .process => { b with process? := some reference }
  | .browser => { b with browser? := some reference }
  | .context => { b with context? := some reference }

def drop (part : Part) (b : Browser σ ρ) : Browser σ ρ :=
  match part with
  | .process => { b with process? := none }
  | .browser => { b with browser? := none }
  | .context => { b with context? := none }

/-- The parts of which the browser holds something. -/
def Holds (parts : List Part) (b : Browser σ ρ) : Prop :=
  ∀ part, (b.handle? part).isSome = true ↔ part ∈ parts

def IsIdle (b : Browser σ ρ) : Prop := ∀ part, b.handle? part = none

def IsRunning (b : Browser σ ρ) : Prop := ∀ part, (b.handle? part).isSome = true

theorem holds_nil_iff {b : Browser σ ρ} : b.Holds [] ↔ b.IsIdle := by
  simp [Holds, IsIdle]

theorem isRunning_of_holds {b : Browser σ ρ} (h : b.Holds [.context, .browser, .process]) :
    b.IsRunning := by
  intro part
  rw [h part]
  cases part <;> simp

@[simp] theorem handle?_putEngine (engine : σ) (b : Browser σ ρ) :
    (putEngine engine b).handle? = b.handle? := by
  funext part
  cases part <;> rfl

@[simp] theorem engine_hold (part : Part) (reference : ρ) (b : Browser σ ρ) :
    (b.hold part reference).engine = b.engine := by
  cases part <;> rfl

@[simp] theorem engine_drop (part : Part) (b : Browser σ ρ) : (b.drop part).engine = b.engine := by
  cases part <;> rfl

theorem Holds.putEngine {parts : List Part} {b : Browser σ ρ} {engine : σ} (h : b.Holds parts) :
    (putEngine engine b).Holds parts := by
  rwa [Holds, handle?_putEngine]

theorem handle?_hold_self (part : Part) (reference : ρ) (b : Browser σ ρ) :
    (b.hold part reference).handle? part = some reference := by
  cases part <;> rfl

theorem handle?_hold_of_ne {part other : Part} (h : other ≠ part) (reference : ρ) (b : Browser σ ρ) :
    (b.hold part reference).handle? other = b.handle? other := by
  cases part <;> cases other <;> first | rfl | exact absurd rfl h

theorem handle?_drop_self (part : Part) (b : Browser σ ρ) : (b.drop part).handle? part = none := by
  cases part <;> rfl

theorem handle?_drop_of_ne {part other : Part} (h : other ≠ part) (b : Browser σ ρ) :
    (b.drop part).handle? other = b.handle? other := by
  cases part <;> cases other <;> first | rfl | exact absurd rfl h

theorem drop_hold {part : Part} {b : Browser σ ρ} (h : b.handle? part = none) (reference : ρ) :
    (b.hold part reference).drop part = b := by
  obtain ⟨engine, process?, browser?, context?⟩ := b
  cases part
  all_goals
    simp only [handle?] at h
    subst h
    rfl

theorem Holds.hold {parts : List Part} {b : Browser σ ρ} (h : b.Holds parts) (part : Part)
    (reference : ρ) : (b.hold part reference).Holds (part :: parts) := by
  intro other
  by_cases hother : other = part
  · subst hother
    simp [handle?_hold_self]
  · rw [handle?_hold_of_ne hother, h other]
    simp [hother]

theorem Holds.handle?_eq_none {parts : List Part} {b : Browser σ ρ} (h : b.Holds parts) {part : Part}
    (hpart : part ∉ parts) : b.handle? part = none := by
  rwa [← h part, Bool.not_eq_true, Option.isSome_eq_false_iff, Option.isNone_iff_eq_none] at hpart

section

variable {b : Browser (Accounted σ) (Nat × ρ)}

def holding (part : Part) (reference : Nat × ρ) : Holding := ⟨part, reference.1⟩

/-- What the browser holds, as it stands on account. -/
def held (b : Browser (Accounted σ) (Nat × ρ)) : List Holding :=
  (b.context?.map (holding .context)).toList ++
    ((b.browser?.map (holding .browser)).toList ++ (b.process?.map (holding .process)).toList)

theorem held_of_handle? {part : Part} {reference : Nat × ρ} (h : b.handle? part = some reference) :
    (held b).Perm (holding part reference :: held (b.drop part)) := by
  obtain ⟨engine, process?, browser?, context?⟩ := b
  cases part <;> simp only [handle?] at h <;> subst h <;> simp only [held, drop]
  · rw [← List.append_assoc, ← List.append_assoc]
    exact List.perm_middle
  · exact List.perm_middle
  · exact List.Perm.refl _

theorem held_of_isIdle (h : b.IsIdle) : held b = [] := by
  have hcontext : b.context? = none := h .context
  have hbrowser : b.browser? = none := h .browser
  have hprocess : b.process? = none := h .process
  rw [held, hcontext, hbrowser, hprocess]
  rfl

/-- All that was acquired, each time under a new number, is held or was released. -/
structure Balanced (b : Browser (Accounted σ) (Nat × ρ)) : Prop where
  numbered : b.engine.acquired.map Holding.number = List.range b.engine.acquired.length
  conserved : b.engine.acquired.Perm (b.engine.released ++ held b)

theorem Balanced.nodup (h : Balanced b) : b.engine.acquired.Nodup := by
  refine List.Nodup.of_map Holding.number ?_
  rw [h.numbered]
  exact List.nodup_range

theorem Balanced.count_released (h : Balanced b) {part : Holding} (hpart : part ∈ b.engine.acquired) :
    b.engine.released.count part + (held b).count part = 1 := by
  rw [← List.count_append, ← h.conserved.count_eq]
  exact List.count_eq_one_of_mem h.nodup hpart

theorem balanced_idle (world : σ) :
    Balanced (idle (Accounted.opened world) : Browser (Accounted σ) (Nat × ρ)) where
  numbered := rfl
  conserved := List.Perm.refl _

@[simp] theorem held_putEngine (engine : Accounted σ) : held (putEngine engine b) = held b := rfl

@[simp] theorem held_drop_putEngine (part : Part) (engine : Accounted σ) :
    held ((putEngine engine b).drop part) = held (b.drop part) := by
  cases part <;> rfl

theorem Balanced.taken (h : Balanced b) {part : Part} (hpart : b.handle? part = none) (world : σ)
    (reference : ρ) :
    Balanced ((putEngine (Accounted.putWorld world (b.engine.take part)) b).hold part
      (b.engine.acquired.length, reference)) := by
  constructor
  · rw [engine_hold]
    change (b.engine.acquired ++ [_]).map Holding.number =
      List.range (b.engine.acquired ++ [_]).length
    rw [List.map_append, h.numbered, List.length_append, List.length_singleton, List.range_succ]
    rfl
  · have hheld := held_of_handle? (handle?_hold_self part (b.engine.acquired.length, reference)
      (putEngine (Accounted.putWorld world (b.engine.take part)) b))
    rw [drop_hold (by rwa [handle?_putEngine]), held_putEngine] at hheld
    rw [engine_hold]
    calc List.Perm (b.engine.acquired ++ [⟨part, b.engine.acquired.length⟩])
          (⟨part, b.engine.acquired.length⟩ :: b.engine.acquired) := List.perm_append_singleton _ _
      List.Perm _ (⟨part, b.engine.acquired.length⟩ :: (b.engine.released ++ held b)) :=
          h.conserved.cons _
      List.Perm _ (b.engine.released ++ (⟨part, b.engine.acquired.length⟩ :: held b)) :=
          List.perm_middle.symm
      List.Perm _ _ := hheld.symm.append_left _

theorem Balanced.released (h : Balanced b) {part : Part} {reference : Nat × ρ}
    (hpart : b.handle? part = some reference) (world : σ) :
    Balanced ((putEngine (Accounted.putWorld world (b.engine.release (holding part reference)))
      b).drop part) := by
  constructor
  · rw [engine_drop]
    exact h.numbered
  · rw [engine_drop, held_drop_putEngine]
    change b.engine.acquired.Perm
      (b.engine.released ++ [holding part reference] ++ held (b.drop part))
    rw [List.append_assoc]
    exact h.conserved.trans ((held_of_handle? hpart).append_left _)

theorem Balanced.putEngine (h : Balanced b) {engine : Accounted σ}
    (hacquired : engine.acquired = b.engine.acquired)
    (hreleased : engine.released = b.engine.released) : Balanced (putEngine engine b) where
  numbered := by
    change engine.acquired.map Holding.number = List.range engine.acquired.length
    rw [hacquired, h.numbered]
  conserved := by
    change engine.acquired.Perm (engine.released ++ held b)
    rw [hacquired, hreleased]
    exact h.conserved

end

section

variable {engine : Engine σ ρ η} {settings : BrowserSettings}

/-- What a routine gives is held from then on; if it fails, nothing more is held than before. -/
theorem leads_acquire (part : Part) {parts : List Part} (hpart : part ∉ parts) {routine : Routine σ ρ}
    {next : Nat × ρ → Routine (Browser (Accounted σ) (Nat × ρ)) α}
    {Q : α → Browser (Accounted σ) (Nat × ρ) → Prop}
    {E : Fault → Browser (Accounted σ) (Nat × ρ) → Prop}
    (hnext : ∀ taken, Leads (fun b => Balanced b ∧ b.Holds (part :: parts)) (next taken) Q E)
    (hE : ∀ s fault b, (routine s).value = .error fault → Balanced b → b.Holds parts → E fault b) :
    Leads (fun b => Balanced b ∧ b.Holds parts)
      (onEngine (routine.takenAs part) >>= fun taken =>
        change (hold part taken) >>= fun _ => next taken) Q E := by
  have htaken : Leads (fun b => Balanced b ∧ b.Holds parts) (onEngine (routine.takenAs part))
      (fun taken b => Balanced (b.hold part taken) ∧ (b.hold part taken).Holds (part :: parts)) E := by
    constructor
    · rintro b taken ⟨hb, hparts⟩ hvalue
      change (routine.takenAs part b.engine).value = .ok taken at hvalue
      change Balanced ((Browser.putEngine (routine.takenAs part b.engine).state b).hold part taken) ∧
        ((Browser.putEngine (routine.takenAs part b.engine).state b).hold part taken).Holds _
      cases h : (routine b.engine.world).value with
      | error fault =>
          rw [takenAs_of_error h] at hvalue
          exact nomatch hvalue
      | ok reference =>
          rw [takenAs_of_ok h] at hvalue ⊢
          obtain rfl := Except.ok.inj hvalue
          exact ⟨hb.taken (hparts.handle?_eq_none hpart) _ reference, hparts.putEngine.hold part _⟩
    · rintro b fault ⟨hb, hparts⟩ hvalue
      change (routine.takenAs part b.engine).value = .error fault at hvalue
      change E fault (Browser.putEngine (routine.takenAs part b.engine).state b)
      cases h : (routine b.engine.world).value with
      | error found =>
          rw [takenAs_of_error h] at hvalue ⊢
          obtain rfl := Except.error.inj hvalue
          exact hE _ _ _ h (hb.putEngine rfl rfl) hparts.putEngine
      | ok reference =>
          rw [takenAs_of_ok h] at hvalue
          exact nomatch hvalue
  exact htaken.bind fun taken => (Leads.change _ _ _).bind fun _ => hnext taken

/-- Whether a release fails or not, nothing is held afterwards. -/
theorem leads_release (part : Part) (parts : List Part) (what : Text) {close : ρ → Routine σ Unit}
    (hclose : ∀ reference, Calm (fun _ => True) (close reference)) :
    Leads (fun b => Balanced b ∧ ∀ other ∈ parts, b.handle? other = none)
      (release what (fun b => b.handle? part) (drop part)
        fun reference => (close reference.2).releasedAs (holding part reference))
      (fun _ b => Balanced b ∧ ∀ other ∈ part :: parts, b.handle? other = none)
      fun _ _ => False := by
  refine (Leads.read _ _ _).bind fun found => ?_
  cases found with
  | none =>
      refine (Leads.pure ()).of_imp fun b hb => ?_
      obtain ⟨hpart, hbalanced, hparts⟩ := hb
      exact ⟨hbalanced, List.forall_mem_cons.mpr ⟨hpart, hparts⟩⟩
  | some reference =>
      -- Until the handle is dropped, the account is only balanced for the browser without it.
      have hreleased : Leads (fun b : Browser (Accounted σ) (Nat × ρ) =>
            b.handle? part = some reference ∧ Balanced b ∧ ∀ other ∈ parts, b.handle? other = none)
          (onEngine ((close reference.2).releasedAs (holding part reference)))
          (fun _ b => Balanced (b.drop part) ∧ ∀ other ∈ parts, b.handle? other = none)
          (fun fault b => fault.IsFailure ∧ Balanced (b.drop part) ∧
            ∀ other ∈ parts, b.handle? other = none) := by
        constructor
        · rintro b - ⟨hpart, hbalanced, hparts⟩ -
          exact ⟨hbalanced.released hpart _, hparts⟩
        · rintro b fault ⟨hpart, hbalanced, hparts⟩ hfault
          exact ⟨(hclose reference.2).isFailure hfault, hbalanced.released hpart _, hparts⟩
      have hlogged : Leads _
          ((onEngine ((close reference.2).releasedAs (holding part reference))).orElse fun failure =>
            Routine.log .warning ("Error " ++ what ++ ": " ++ failure.message))
          (fun _ b => Balanced (b.drop part) ∧ ∀ other ∈ parts, b.handle? other = none)
          fun _ _ => False :=
        hreleased.orElse (fun failure => (Leads.log _ _ _ _).of_imp fun b hb => hb.2)
          fun message b hb => Fault.not_isInterrupt_of_isFailure hb.1 ⟨message, rfl⟩
      refine hlogged.bind fun _ => (Leads.change (drop part) _ _).of_imp fun b hb => ?_
      obtain ⟨hbalanced, hparts⟩ := hb
      refine ⟨hbalanced, List.forall_mem_cons.mpr ⟨handle?_drop_self part b, fun other hother => ?_⟩⟩
      by_cases hsame : other = part
      · rw [hsame, handle?_drop_self]
      · rw [handle?_drop_of_ne hsame, hparts other hother]

theorem leads_close (hcalm : engine.IsCalm) :
    Leads Balanced (close engine.accounted) (fun _ b => Balanced b ∧ b.IsIdle) fun _ _ => False := by
  have hcontext := leads_release .context [] "closing context" hcalm.closeContext
  have hbrowser := leads_release .browser [.context] "closing browser" hcalm.closeBrowser
  have hprocess := leads_release .process [.browser, .context] "stopping playwright" hcalm.stop
  refine (hcontext.bind fun _ => hbrowser.bind fun _ => hprocess).imp ?_ ?_ fun _ _ => id
  · exact fun b hb => ⟨hb, fun other hother => nomatch hother⟩
  · rintro _ b ⟨hb, hparts⟩
    exact ⟨hb, fun part => hparts part (by cases part <;> decide)⟩

theorem leads_launch (hcalm : engine.IsCalm) (process : Nat × ρ) :
    Leads (fun b => Balanced b ∧ b.Holds [.process]) (launch engine.accounted settings process)
      (fun _ b => Balanced b ∧ b.IsRunning) fun fault b => fault.IsFailure ∧ Balanced b := by
  refine leads_acquire .browser (by decide) (fun browser => ?_) ?_
  · refine leads_acquire .context (by decide) (fun context => ?_) ?_
    · exact (Leads.pure context).of_imp fun b hb => ⟨hb.1, isRunning_of_holds hb.2⟩
    · exact fun s fault b hfault hb _ => ⟨(hcalm.newContext _ _).isFailure hfault, hb⟩
  · exact fun s fault b hfault hb _ => ⟨(hcalm.launch _ _).isFailure hfault, hb⟩

/-- The state that each operation finds and leaves. -/
structure IsWhole (b : Browser (Accounted σ) (Nat × ρ)) : Prop where
  balanced : Balanced b
  handles : b.IsIdle ∨ b.IsRunning

theorem IsWhole.isIdle {b : Browser (Accounted σ) (Nat × ρ)} (h : IsWhole b)
    (hcontext : b.context? = none) : b.IsIdle := by
  refine h.handles.resolve_right fun hrunning => ?_
  have hsome : b.context?.isSome = true := hrunning .context
  rw [hcontext] at hsome
  exact nomatch hsome

theorem IsWhole.isRunning {b : Browser (Accounted σ) (Nat × ρ)} (h : IsWhole b) {context : Nat × ρ}
    (hcontext : b.context? = some context) : b.IsRunning :=
  h.handles.resolve_left fun hidle => nomatch hcontext.symm.trans (hidle .context)

/-- A start that fails halfway releases what it has acquired. -/
theorem leads_start (hcalm : engine.IsCalm) :
    Leads IsWhole (start engine.accounted settings) (fun _ b => Balanced b ∧ b.IsRunning)
      fun _ b => Balanced b ∧ b.IsIdle := by
  refine (Leads.read _ _ _).bind fun found => ?_
  cases found with
  | some context =>
      exact (Leads.pure context).of_imp fun b hb => ⟨hb.2.balanced, hb.2.isRunning hb.1⟩
  | none =>
      refine Leads.of_imp (P := fun b => Balanced b ∧ b.Holds []) ?_ fun b hb =>
        ⟨hb.2.balanced, holds_nil_iff.mpr (hb.2.isIdle hb.1)⟩
      refine (Leads.log _ _ _ _).bind fun _ => ?_
      refine leads_acquire .process (by decide) (fun process => ?_) ?_
      -- Whatever the launch has acquired before it failed is on account, and so is released.
      · refine (leads_launch hcalm process).orElse (fun failure => ?_) fun message b hb => ?_
        · refine ((leads_close hcalm).imp (fun b hb => hb.2) (fun _ _ => id)
            fun _ _ h => h.elim).bind fun _ => ?_
          exact Leads.fail failure fun _ b => Balanced b ∧ b.IsIdle
        · exact absurd ⟨message, rfl⟩ (Fault.not_isInterrupt_of_isFailure hb.1)
      · exact fun s fault b _ hb hparts => ⟨hb, holds_nil_iff.mp hparts⟩

def account (s : Accounted σ) : List Holding × List Holding := (s.acquired, s.released)

theorem leads_quiet {routine : Routine (Accounted σ) α} (h : Keeps account routine) :
    Leads (IsWhole (ρ := ρ)) (onEngine routine) (fun _ => IsWhole) fun _ => IsWhole := by
  have hwhole : ∀ b : Browser (Accounted σ) (Nat × ρ), IsWhole b →
      IsWhole (onEngine routine b).state := by
    rintro b ⟨hbalanced, hhandles⟩
    obtain ⟨hacquired, hreleased⟩ := Prod.mk.inj (h b.engine)
    refine ⟨hbalanced.putEngine hacquired hreleased, ?_⟩
    change (putEngine _ b).IsIdle ∨ (putEngine _ b).IsRunning
    rwa [IsIdle, IsRunning, handle?_putEngine]
  exact ⟨fun b _ hb _ => hwhole b hb, fun b _ hb _ => hwhole b hb⟩

theorem keeps_inWorld (routine : Routine σ α) :
    Keeps account (routine.within Accounted.world Accounted.putWorld) := fun _ => rfl

theorem leads_newTab (context : Nat × ρ) :
    Leads (IsWhole (ρ := ρ)) (onEngine (engine.accounted.newTab context))
      (fun opened b => (∃ tab : Tab σ η, opened = tab.within Accounted.world Accounted.putWorld) ∧
        IsWhole b) fun _ => IsWhole := by
  have hkeeps : Keeps account (engine.accounted.newTab context) := by
    intro s
    rw [accounted_newTab]
    cases h : ((engine.newTab context.2).within Accounted.world Accounted.putWorld s).value with
    | ok tab =>
        rw [bind_of_ok h]
        rfl
    | error fault =>
        rw [bind_of_error h]
        rfl
  refine ⟨fun b opened hb hvalue => ⟨?_, (leads_quiet hkeeps).value b opened hb hvalue⟩,
    (leads_quiet hkeeps).fault⟩
  change (engine.accounted.newTab context b.engine).value = .ok opened at hvalue
  rw [accounted_newTab] at hvalue
  obtain ⟨tab, -, hopened⟩ := value_bind_eq_ok hvalue
  exact ⟨tab, (Except.ok.inj hopened).symm⟩

theorem start_keepsWhole (hcalm : engine.IsCalm) :
    Leads IsWhole (start engine.accounted settings) (fun _ => IsWhole) fun _ => IsWhole :=
  (leads_start hcalm).imp (fun _ => id) (fun _ _ hb => ⟨hb.1, Or.inr hb.2⟩)
    fun _ _ hb => ⟨hb.1, Or.inl hb.2⟩

theorem openPage_keepsWhole (hcalm : engine.IsCalm) :
    Leads IsWhole (openPage engine.accounted settings) (fun _ => IsWhole) fun _ => IsWhole := by
  refine (start_keepsWhole hcalm).bind fun context => (leads_newTab context).bind fun opened => ?_
  by_cases hopened : ∃ tab : Tab σ η, opened = tab.within Accounted.world Accounted.putWorld
  · obtain ⟨tab, rfl⟩ := hopened
    refine Leads.of_imp (P := IsWhole) ?_ fun b hb => hb.2
    refine (leads_quiet (keeps_inWorld (tab.setTimeout _))).bind fun _ => ?_
    refine (leads_quiet (keeps_inWorld (tab.setNavigationTimeout _))).bind fun _ => ?_
    exact Leads.done _ _ _
  -- No other tab is ever opened.
  · exact ⟨fun b _ hb _ => absurd hb.1 hopened, fun b _ hb _ => absurd hb.1 hopened⟩

theorem close_keepsWhole (hcalm : engine.IsCalm) :
    Leads IsWhole (close engine.accounted) (fun _ => IsWhole) fun _ => IsWhole :=
  (leads_close hcalm).imp (fun _ hb => hb.balanced) (fun _ _ hb => ⟨hb.1, Or.inl hb.2⟩)
    fun _ _ h => h.elim

theorem operate_keepsWhole (hcalm : engine.IsCalm) (operation : Operation) :
    Leads IsWhole (operate engine.accounted settings operation) (fun _ => IsWhole)
      fun _ => IsWhole := by
  cases operation with
  | start => exact (start_keepsWhole hcalm).bind fun _ => Leads.done _ _ _
  | openPage => exact (openPage_keepsWhole hcalm).bind fun _ => Leads.done _ _ _
  | close => exact close_keepsWhole hcalm
  | exit => exact close_keepsWhole hcalm

/-- Where some operations lead to, from a browser that holds nothing. -/
def after (engine : Engine σ ρ η) (settings : BrowserSettings) (operations : List Operation)
    (world : σ) : Browser σ ρ :=
  (operateAll engine settings operations (idle world)).state

def accountAfter (engine : Engine σ ρ η) (settings : BrowserSettings) (operations : List Operation)
    (world : σ) : Browser (Accounted σ) (Nat × ρ) :=
  after engine.accounted settings operations (Accounted.opened world)

theorem isWhole_accountAfter (hcalm : engine.IsCalm) (operations : List Operation) (world : σ) :
    IsWhole (accountAfter engine settings operations world) := by
  have hidle : IsWhole (idle (Accounted.opened world) : Browser (Accounted σ) (Nat × ρ)) :=
    ⟨balanced_idle world, Or.inl fun part => by cases part <;> rfl⟩
  refine attemptAll_preserves (fun routine hroutine b hb => ?_) hidle
  obtain ⟨operation, -, rfl⟩ := List.mem_map.mp hroutine
  exact (operate_keepsWhole hcalm operation).preserves hb

theorem bare_accountAfter (operations : List Operation) (world : σ) :
    (accountAfter engine settings operations world).bare = after engine settings operations world :=
  congrArg Done.state (operateAll_accounted operations (idle (Accounted.opened world)))

theorem handle?_bare (b : Browser (Accounted σ) (Nat × ρ)) (part : Part) :
    b.bare.handle? part = (b.handle? part).map Prod.snd := by
  cases part <;> rfl

theorem isIdle_bare {b : Browser (Accounted σ) (Nat × ρ)} : b.bare.IsIdle ↔ b.IsIdle := by
  simp only [IsIdle, handle?_bare, Option.map_eq_none_iff]

theorem isRunning_bare {b : Browser (Accounted σ) (Nat × ρ)} : b.bare.IsRunning ↔ b.IsRunning := by
  simp only [IsRunning, handle?_bare, Option.isSome_map]

theorem close_bare (hcalm : engine.IsCalm) {b : Browser (Accounted σ) (Nat × ρ)} (hb : Balanced b) :
    (close engine b.bare).value = .ok () ∧ (close engine b.bare).state.IsIdle := by
  obtain ⟨⟨⟩, hvalue, -, hidle⟩ := (leads_close hcalm).exists_value hb
  have hbare : (close engine.accounted b).through bare = close engine b.bare :=
    (matches_close.through b).1
  rw [← hbare]
  exact ⟨hvalue, isIdle_bare.mpr hidle⟩

/-- After all operations, whatever of the engine fails, the browser holds all of its handles or
none, and closing it succeeds and leaves none.  The account of the same operations has each process,
browser and context once; each has been released at most once, and exactly once if no handle
is left. -/
theorem after_releasesOnce (hcalm : engine.IsCalm) (settings : BrowserSettings)
    (operations : List Operation) (world : σ) :
    ((after engine settings operations world).IsIdle ∨
        (after engine settings operations world).IsRunning) ∧
      (close engine (after engine settings operations world)).value = .ok () ∧
      (close engine (after engine settings operations world)).state.IsIdle ∧
      (accountAfter engine settings operations world).bare = after engine settings operations world ∧
      (accountAfter engine settings operations world).engine.acquired.Nodup ∧
      ∀ holding ∈ (accountAfter engine settings operations world).engine.acquired,
        (accountAfter engine settings operations world).engine.released.count holding ≤ 1 ∧
        ((after engine settings operations world).IsIdle →
          (accountAfter engine settings operations world).engine.released.count holding = 1) := by
  have hwhole : IsWhole (accountAfter engine settings operations world) :=
    isWhole_accountAfter hcalm operations world
  have hbare : (accountAfter engine settings operations world).bare =
      after engine settings operations world := bare_accountAfter operations world
  obtain ⟨hvalue, hidle⟩ := close_bare hcalm hwhole.balanced
  rw [← hbare, isIdle_bare, isRunning_bare]
  refine ⟨hwhole.handles, hvalue, hidle, rfl, hwhole.balanced.nodup, fun holding hholding => ?_⟩
  have hcount := hwhole.balanced.count_released hholding
  refine ⟨by omega, fun hnone => ?_⟩
  rw [held_of_isIdle hnone, List.count_nil] at hcount
  exact hcount

/-- An engine that creates no context and opens no tab at first, and never closes a browser; its
state counts the calls. -/
def stubbornEngine : Engine Nat Nat Unit where
  start n := ⟨.ok n, n + 1, []⟩
  launch _ _ n := ⟨.ok n, n + 1, []⟩
  newContext _ _ n :=
    if n < 3 then ⟨.error (.failure ⟨"Error", "Target crashed"⟩), n + 1, []⟩ else ⟨.ok n, n + 1, []⟩
  newTab _ := fail ⟨"Error", "Target crashed"⟩
  closeContext _ := pure ()
  closeBrowser _ := fail ⟨"Error", "Connection closed"⟩
  stop _ := pure ()

theorem stubbornEngine_isCalm : stubbornEngine.IsCalm where
  launch _ _ := ⟨fun _ _ => trivial, fun _ _ _ h => nomatch h⟩
  newContext _ _ := by
    refine ⟨fun _ _ => trivial, fun n _ message h => ?_⟩
    unfold stubbornEngine at h
    dsimp only at h
    split at h <;> exact nomatch h
  closeContext _ := .pure ()
  closeBrowser _ := ⟨fun _ _ => trivial, fun _ _ _ h => nomatch Except.error.inj h⟩
  stop _ := .pure ()

theorem after_stubbornEngine_releasesOnce :
    stubbornEngine.IsCalm ∧
      (accountAfter stubbornEngine .standard [.openPage, .openPage] 0).bare.IsRunning ∧
      (accountAfter stubbornEngine .standard [.openPage, .openPage, .exit] 0).engine.acquired =
        [⟨.process, 0⟩, ⟨.browser, 1⟩, ⟨.process, 2⟩, ⟨.browser, 3⟩, ⟨.context, 4⟩] ∧
      ∀ holding ∈ (accountAfter stubbornEngine .standard [.openPage, .openPage, .exit] 0).engine.acquired,
        (accountAfter stubbornEngine .standard [.openPage, .openPage, .exit] 0).engine.released.count
          holding = 1 := by
  have hidle : (after stubbornEngine .standard [.openPage, .openPage, .exit] 0).IsIdle := by
    intro part
    cases part <;> rfl
  obtain ⟨-, -, -, -, -, honce⟩ := after_releasesOnce stubbornEngine_isCalm .standard
    [.openPage, .openPage, .exit] 0
  refine ⟨stubbornEngine_isCalm, fun part => ?_, rfl, fun holding hholding =>
    (honce holding hholding).2 hidle⟩
  cases part <;> rfl

end

end Browser

end PageScript
