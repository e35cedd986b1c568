import PageScript.Proofs.RelatedRuns

namespace PageScript

open Routine
open Scripted (Event)

variable {σ η : Type}

namespace Routine

variable {α : Type}

theorem records_within (p : Event → Bool) (plain : Routine σ α) :
    Records p (plain.within Recorded.world fun world s => { s with world }) plain := by
  intro s trace
  exact ⟨[], by simp, by simp [within]⟩

theorem calm_recordedAs {I : σ → Prop} {routine : Routine σ α} (h : Calm I routine) (event : Event) :
    Calm (fun s : Recorded σ => I s.world) (routine.recordedAs event) where
  keeps s hs := h.keeps s.world hs
  notInterrupted s hs := h.notInterrupted s.world hs

end Routine

theorem Page.calmIn_recorded {I : σ → Prop} {page : Page σ η} (h : page.CalmIn I) :
    page.recorded.CalmIn fun s => I s.world where
  find selector := calm_recordedAs (h.find selector) _
  attributeOf element name := calm_recordedAs (h.attributeOf element name) _
  textOf element := calm_recordedAs (h.textOf element) _
  visit url := calm_recordedAs (h.visit url) _
  perform interaction := calm_recordedAs (h.perform interaction) _

theorem recordedOpening_eq_ok {openPage : Routine σ (Page σ η)} {s : Recorded σ}
    {page' : Page (Recorded σ) η} (h : (openPage.recordedOpening s).value = .ok page') :
    ∃ page, (openPage s.world).value = .ok page ∧ page' = page.recorded := by
  change Except.map Page.recorded (openPage s.world).value = _ at h
  cases hvalue : (openPage s.world).value with
  | error fault =>
      rw [hvalue] at h
      exact absurd h (by simp [Except.map])
  | ok page =>
      rw [hvalue] at h
      exact ⟨page, rfl, (Except.ok.inj h).symm⟩

theorem tags_recordedOpening (openPage : Routine σ (Page σ η)) :
    Tags Recorded.world (fun _ => Page.recorded) openPage.recordedOpening openPage where
  value _ := rfl
  state _ := rfl
  log _ := rfl

/-- The first routine does what the second does, and opens one page, before any
other call. -/
def Routine.RecordsOpening {α : Type} (recorded : Routine (Recorded σ) α) (plain : Routine σ α) :
    Prop :=
  ∀ s trace, ∃ more : List Event, (∀ event ∈ more, event.isOpened = false) ∧
    recorded ⟨s, trace⟩ =
      ⟨(plain s).value, ⟨(plain s).state, trace ++ .opened :: more⟩, (plain s).log⟩

/-- The record has grown by an opening, and by other events that open nothing. -/
def Recorded.Opens (s t : Recorded σ) : Prop :=
  ∃ more : List Event, (∀ event ∈ more, event.isOpened = false) ∧
    t.trace = s.trace ++ .opened :: more

namespace Routine.RecordsOpening

variable {α : Type}

theorem of_extends {recorded : Routine (Recorded σ) α} {plain : Routine σ α}
    (h : Extends Recorded.world Recorded.Opens recorded plain) : RecordsOpening recorded plain := by
  intro s trace
  obtain ⟨hended, more, hmore, htrace⟩ := h ⟨s, trace⟩
  refine ⟨more, hmore, ?_⟩
  rw [← htrace, ← hended]
  rfl

theorem logged {recorded : Routine (Recorded σ) α} {plain : Routine σ α}
    (h : RecordsOpening recorded plain) (level : LogLevel) (message : Text) :
    RecordsOpening (log level message >>= fun _ => recorded)
      (log level message >>= fun _ => plain) := by
  intro s trace
  obtain ⟨more, hmore, heq⟩ := h s trace
  refine ⟨more, hmore, ?_⟩
  simp only [bind_eq, andThen, log, heq]

theorem outcome_bind {openPage : Routine σ (Page σ η)}
    {next' : Except Failure (Page (Recorded σ) η) → Routine (Recorded σ) α}
    {next : Except Failure (Page σ η) → Routine σ α}
    (hok : ∀ page : Page σ η,
      Records (!·.isOpened) (next' (.ok page.recorded)) (next (.ok page)))
    (herror : ∀ failure, Records (!·.isOpened) (next' (.error failure)) (next (.error failure))) :
    RecordsOpening (openPage.recordedOpening.outcome >>= next') (openPage.outcome >>= next) := by
  refine of_extends ((tags_recordedOpening openPage).outcome.bind (fun s ended _ => ?_)
    fun s fault _ => ?_)
  · refine ⟨Recorded.Grows (!·.isOpened), ?_, fun t => ?_⟩
    · cases ended with
      | ok page => exact records_iff_extends.mp (hok page)
      | error failure => exact records_iff_extends.mp (herror failure)
    · rintro ⟨more, hmore, htrace⟩
      rw [outcome_state] at htrace
      exact ⟨more, by simpa using hmore, htrace.trans (List.append_assoc _ _ _)⟩
  · rw [outcome_state]
    exact ⟨[], by simp, rfl⟩

theorem countP_isOpened {recorded : Routine (Recorded σ) α} {plain : Routine σ α}
    (h : RecordsOpening recorded plain) (s : σ) (trace : List Event) :
    ∃ more, more.countP Event.isOpened = 1 ∧
      (recorded ⟨s, trace⟩).state = ⟨(plain s).state, trace ++ more⟩ := by
  obtain ⟨more, hmore, heq⟩ := h s trace
  refine ⟨.opened :: more, ?_, by rw [heq]⟩
  have hnone : more.countP Event.isOpened = 0 := by
    rw [List.countP_eq_zero]
    intro event hevent
    simp [hmore event hevent]
  rw [List.countP_cons, hnone]
  rfl

theorem records {recorded : Routine (Recorded σ) α} {plain : Routine σ α}
    (h : RecordsOpening recorded plain) : Records (fun _ => true) recorded plain := by
  intro s trace
  obtain ⟨more, -, heq⟩ := h s trace
  exact ⟨.opened :: more, fun _ _ => rfl, heq⟩

end Routine.RecordsOpening

namespace Run

/-- The run, with every call on a page put on record. -/
def Plan.recorded (plan : Plan σ η) : Plan (Recorded σ) η where
  client? := plan.client?.map fun client request =>
    (client request).within Recorded.world fun world s => { s with world }
  model := plan.model
  openPage := plan.openPage.recordedOpening
  resolver := Validation.standardResolver
  isCancelled s := plan.isCancelled s.world
  options := plan.options
  meanwhile s := { s with world := plan.meanwhile s.world }
  replyDepth := plan.replyDepth

theorem Plan.IsUninterrupted.recorded {I : σ → Prop} {plan : Plan σ η}
    (hplan : plan.IsUninterrupted I) : plan.recorded.IsUninterrupted fun s => I s.world where
  resolver := rfl
  meanwhile s hs := hplan.meanwhile s.world hs
  opening := by
    constructor
    · intro s hs
      exact hplan.opening.keeps s.world hs
    · intro s hs message h
      change Except.map Page.recorded (plan.openPage s.world).value = _ at h
      cases hvalue : (plan.openPage s.world).value with
      | ok page =>
          rw [hvalue] at h
          exact absurd h (by simp [Except.map])
      | error fault =>
          rw [hvalue] at h
          obtain rfl := Except.error.inj h
          exact hplan.opening.notInterrupted s.world hs message hvalue
  page := by
    intro s page' hs hopened
    obtain ⟨page, hpage, rfl⟩ := recordedOpening_eq_ok hopened
    exact Page.calmIn_recorded (hplan.page s.world page hs hpage)
  closing := by
    intro s page' hs hopened s' hs'
    obtain ⟨page, hpage, rfl⟩ := recordedOpening_eq_ok hopened
    exact hplan.closing s.world page hs hpage s'.world hs'

theorem Plan.IsCalm.recorded {I : σ → Prop} {plan : Plan σ η} (hplan : plan.IsCalm I) :
    plan.recorded.IsCalm fun s => I s.world where
  resolver := rfl
  notCancelled s hs := hplan.notCancelled s.world hs
  undisturbed s hs := by
    change ({ s with world := plan.meanwhile s.world } : Recorded σ) = s
    rw [hplan.undisturbed s.world hs]
  opening := hplan.isUninterrupted.recorded.opening
  page := hplan.isUninterrupted.recorded.page
  closing := hplan.isUninterrupted.recorded.closing

theorem reaches_recorded_iff (plan : Plan σ η) (url : Text) (s : Recorded σ) :
    Reaches plan.recorded url s ↔ Reaches plan url s.world := by
  constructor
  · rintro ⟨page', hopened, hvisited⟩
    obtain ⟨page, hpage, rfl⟩ := recordedOpening_eq_ok hopened
    exact ⟨page, hpage, hvisited⟩
  · rintro ⟨page, hopened, hvisited⟩
    refine ⟨page.recorded, ?_, hvisited⟩
    change Except.map Page.recorded (plan.openPage s.world).value = _
    rw [hopened]
    rfl

theorem records_reply (p : Event → Bool) (plan : Plan σ η) (objective : Objective) :
    Records p (Generation.generate plan.recorded.client? plan.recorded.model objective)
      (Generation.generate plan.client? plan.model objective) :=
  Generation.related_generate (records_isCongruence p) (fun _ _ => records_within p _) _ _

theorem validateOne_recorded {plan : Plan σ η} (hplan : plan.resolver = Validation.standardResolver)
    (url : Text) (scenario : Scenario) :
    RecordsOpening (validateOne plan.recorded url scenario) (validateOne plan url scenario) := by
  have hcongruence := records_isCongruence (σ := σ) (!·.isOpened)
  unfold validateOne Validation.validate
  rw [hplan]
  refine RecordsOpening.logged (RecordsOpening.outcome_bind ?_ ?_) _ _
  · intro page
    have hpages := page.recorded_related
    have hon := Validation.related_validateOn
      (Validation.related_standardResolver hcongruence hpages.toReadsRelated) hcongruence hpages
      scenario url
    refine hcongruence.bind (records_finally hon (records_recordedAs rfl _)) fun ended => ?_
    cases ended with
    | error error => exact hcongruence.done _
    | ok outcomes => exact hcongruence.bind (hcongruence.log _ _) fun _ => hcongruence.done _
  · intro failure
    exact hcongruence.done _

theorem stateAt_recorded {plan : Plan σ η} (hplan : plan.resolver = Validation.standardResolver)
    (url : Text) (scenarios : List Scenario) {i : Nat} (hi : i ≤ scenarios.length) (s : σ)
    (trace : List Event) :
    ∃ more, more.countP Event.isOpened = i ∧
      stateAt plan.recorded url ⟨s, trace⟩ scenarios i =
        ⟨stateAt plan url s scenarios i, trace ++ more⟩ := by
  induction i generalizing scenarios s trace with
  | zero => exact ⟨[], rfl, by simp [stateAt]⟩
  | succ i ih =>
      cases scenarios with
      | nil => exact absurd hi (by simp)
      | cons scenario rest =>
          obtain ⟨first, hfirst, hstate⟩ :=
            (validateOne_recorded hplan url scenario).countP_isOpened s trace
          obtain ⟨more, hmore, hrest⟩ := ih rest (Nat.le_of_succ_le_succ hi)
            (validateOne plan url scenario s).state (trace ++ first)
          refine ⟨first ++ more, ?_, ?_⟩
          · rw [List.countP_append, hfirst, hmore, Nat.add_comm]
          · rw [stateAt_cons_succ, stateAt_cons_succ, hstate, hrest, List.append_assoc]

theorem reaches_stateAt_recorded_iff {plan : Plan σ η}
    (hplan : plan.resolver = Validation.standardResolver) (url : Text) (scenarios : List Scenario)
    {i : Nat} (hi : i ≤ scenarios.length) (s : σ) (trace : List Event) :
    Reaches plan.recorded url (stateAt plan.recorded url ⟨s, trace⟩ scenarios i) ↔
      Reaches plan url (stateAt plan url s scenarios i) := by
  obtain ⟨more, -, hstate⟩ := stateAt_recorded hplan url scenarios hi s trace
  rw [reaches_recorded_iff, hstate]

theorem Plan.recorded_related {plan : Plan σ η}
    (hplan : plan.resolver = Validation.standardResolver) :
    plan.recorded.Related (fun {_} recorded plain => Records (fun _ => true) recorded plain) plan where
  model := rfl
  options := rfl
  replyDepth := rfl
  reply := records_reply _ plan
  poll s trace := ⟨[], by simp, by rw [List.append_nil]; rfl⟩
  validateOne url scenario := (validateOne_recorded hplan url scenario).records

/-- What is put on record changes nothing of a run. -/
theorem records_run (plan : Plan σ η) (hplan : plan.resolver = Validation.standardResolver)
    (occasion : Occasion) (objective : Objective) :
    Records (fun _ => true) (run plan.recorded occasion objective) (run plan occasion objective) :=
  related_run (records_isCongruence _) (Plan.recorded_related hplan) occasion objective

end Run

end PageScript
