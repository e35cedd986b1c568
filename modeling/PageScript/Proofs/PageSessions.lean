import Mathlib.Data.List.Basic
import PageScript.Page.Scripted
import PageScript.Proofs.ExtendedState
import PageScript.Proofs.RunContainment
/-!
The pages of a run, from their opening to their closing.  Every call is put on record
with the page that it is made on, so that the record tells the pages apart.
-/

namespace PageScript

open Routine
open Scripted (Event)

variable {σ η α : Type}

inductive Call where
  /-- A page is opened, and numbered; without a number, that has failed. -/
  | opening (page? : Option Nat)
  | on (page : Nat) (event : Event)
  deriving DecidableEq, Repr

namespace Call

def opened? : Call → Option Nat
  | opening page? => page?
  | on _ _ => none

def pages (calls : List Call) : List Nat := calls.filterMap opened?

/-- The pages that have been opened and not been closed. -/
def openPages (calls : List Call) : List Nat :=
  (pages calls).filter fun page => !calls.contains (on page .closed)

@[simp] theorem pages_append (calls later : List Call) :
    pages (calls ++ later) = pages calls ++ pages later := List.filterMap_append

@[simp] theorem pages_map_on (page : Nat) (events : List Event) :
    pages (events.map (on page)) = [] := by
  induction events with
  | nil => rfl
  | cons event events ih => exact ih

/-- Calls that open pages one at a time, the first one with the number `first`, and that
leave each of them closed. -/
structure IsScoped (first : Nat) (calls : List Call) : Prop where
  numbered : pages calls = List.range' first (pages calls).length
  single : ∀ before, before <+: calls → (openPages before).length ≤ 1
  /-- Nothing is called on a page that is not opened. -/
  made : ∀ page event, on page event ∈ calls → page ∈ pages calls
  untouched : calls.Pairwise fun earlier later =>
    ∀ page, earlier = on page .closed → ∀ event, later ≠ on page event
  closed : ∀ page ∈ pages calls, calls.count (on page .closed) = 1

theorem isScoped_nil (first : Nat) : IsScoped first [] where
  numbered := rfl
  single before hbefore := by
    rw [List.prefix_nil.mp hbefore]
    exact Nat.zero_le 1
  made _ _ h := absurd h List.not_mem_nil
  untouched := .nil
  closed _ h := absurd h List.not_mem_nil

theorem isScoped_unopened (first : Nat) : IsScoped first [opening none] where
  numbered := rfl
  single before hbefore := by
    have hpages : pages before = [] := by
      rcases List.prefix_cons_iff.mp hbefore with rfl | ⟨rest, rfl, hrest⟩
      · rfl
      · rw [List.prefix_nil.mp hrest]
        rfl
    rw [openPages, hpages]
    exact Nat.zero_le 1
  made _ _ h := absurd h (by simp)
  untouched := List.pairwise_singleton _ _
  closed _ h := absurd h List.not_mem_nil

def session (page : Nat) (events : List Event) : List Call :=
  opening (some page) :: (events.map (on page) ++ [on page .closed])

theorem pages_session (page : Nat) (events : List Event) : pages (session page events) = [page] := by
  change page :: pages (events.map (on page) ++ [on page .closed]) = [page]
  rw [pages_append, pages_map_on]
  rfl

theorem mem_session_on {page other : Nat} {events : List Event} {event : Event}
    (h : on other event ∈ session page events) : other = page := by
  simp only [session, List.mem_cons, List.mem_append, List.mem_map, on.injEq, reduceCtorEq,
    List.not_mem_nil, or_false, false_or] at h
  rcases h with ⟨_, _, rfl, _⟩ | ⟨rfl, _⟩ <;> rfl

theorem closed_notMem_map {events : List Event} (hevents : .closed ∉ events) (page other : Nat) :
    on other .closed ∉ events.map (on page) := by
  intro h
  obtain ⟨event, hevent, hclosed⟩ := List.mem_map.mp h
  exact hevents ((on.inj hclosed).2 ▸ hevent)

theorem isScoped_session {page : Nat} {events : List Event} (hevents : .closed ∉ events) :
    IsScoped page (session page events) where
  numbered := by
    rw [pages_session]
    rfl
  single before hbefore := by
    have hpages : (pages before).length ≤ (pages (session page events)).length :=
      (hbefore.sublist.filterMap opened?).length_le
    rw [pages_session] at hpages
    exact (List.length_filter_le _ _).trans hpages
  made other event h := by
    rw [pages_session, mem_session_on h]
    exact List.mem_singleton_self page
  untouched := by
    -- Only the last call closes a page.
    have hnone : ∀ call ∈ events.map (on page), ∀ other, call ≠ on other .closed :=
      fun call hcall other h => closed_notMem_map hevents page other (h ▸ hcall)
    refine List.pairwise_cons.mpr ⟨fun later _ other h => absurd h nofun, ?_⟩
    refine List.pairwise_append.mpr ⟨?_, List.pairwise_singleton _ _, ?_⟩
    · exact List.pairwise_of_forall_mem_list fun earlier hearlier _ _ other h =>
        absurd h (hnone earlier hearlier other)
    · exact fun earlier hearlier _ _ other h => absurd h (hnone earlier hearlier other)
  closed other hother := by
    rw [pages_session, List.mem_singleton] at hother
    rw [hother, session, List.count_cons_of_ne (by simp), List.count_append,
      List.count_eq_zero.mpr (closed_notMem_map hevents page page), Nat.zero_add,
      List.count_singleton_self]

namespace IsScoped

variable {first : Nat} {calls later : List Call}

theorem mem_pages_iff (h : IsScoped first calls) {page : Nat} :
    page ∈ pages calls ↔ first ≤ page ∧ page < first + (pages calls).length := by
  rw [h.numbered, List.mem_range'_1, List.length_range']

theorem closed_mem (h : IsScoped first calls) {page : Nat} (hpage : page ∈ pages calls) :
    on page .closed ∈ calls :=
  List.one_le_count_iff.mp (h.closed page hpage).ge

theorem notMem_pages (h : IsScoped first calls)
    (hlater : IsScoped (first + (pages calls).length) later) {page : Nat}
    (hpage : page ∈ pages later) : page ∉ pages calls := by
  rw [h.mem_pages_iff]
  rw [hlater.mem_pages_iff] at hpage
  omega

theorem openPages_append (h : IsScoped first calls)
    (hlater : IsScoped (first + (pages calls).length) later) {before : List Call}
    (hbefore : before <+: later) : openPages (calls ++ before) = openPages before := by
  have hpages : ∀ page ∈ pages before, on page .closed ∉ calls := by
    intro page hpage hclosed
    have hpage' : page ∈ pages later := (hbefore.sublist.filterMap opened?).subset hpage
    exact h.notMem_pages hlater hpage' (h.made page _ hclosed)
  have hnone : (pages calls).filter (fun page => !(calls ++ before).contains (on page .closed)) =
      [] := by
    rw [List.filter_eq_nil_iff]
    intro page hpage hopen
    simp [h.closed_mem hpage] at hopen
  rw [openPages, pages_append, List.filter_append, hnone, List.nil_append]
  refine List.filter_congr fun page hpage => ?_
  simp [hpages page hpage]

theorem append (h : IsScoped first calls)
    (hlater : IsScoped (first + (pages calls).length) later) : IsScoped first (calls ++ later) where
  numbered := by
    rw [pages_append, List.length_append, ← List.range'_append_1, ← h.numbered, ← hlater.numbered]
  single before hbefore := by
    rcases List.prefix_or_prefix_of_prefix hbefore (List.prefix_append calls later) with
      hearly | ⟨rest, rfl⟩
    · exact h.single before hearly
    · -- The earlier pages are all closed by now.
      have hrest : rest <+: later := (List.prefix_append_right_inj calls).mp hbefore
      rw [h.openPages_append hlater hrest]
      exact hlater.single rest hrest
  made page event hmade := by
    rw [pages_append, List.mem_append]
    exact (List.mem_append.mp hmade).imp (h.made page event) (hlater.made page event)
  untouched := by
    refine List.pairwise_append.mpr ⟨h.untouched, hlater.untouched, ?_⟩
    rintro _ hearlier _ hcall page rfl event rfl
    exact h.notMem_pages hlater (hlater.made page event hcall) (h.made page _ hearlier)
  closed page hpage := by
    rw [List.count_append]
    rw [pages_append, List.mem_append] at hpage
    rcases hpage with hpage | hpage
    · have hnone : on page .closed ∉ later := fun hclosed =>
        h.notMem_pages hlater (hlater.made page _ hclosed) hpage
      rw [h.closed page hpage, List.count_eq_zero.mpr hnone]
    · have hnone : on page .closed ∉ calls := fun hclosed =>
        h.notMem_pages hlater hpage (h.made page _ hclosed)
      rw [hlater.closed page hpage, List.count_eq_zero.mpr hnone]

end IsScoped

end Call

open Call

structure Tracked (σ : Type) where
  world : σ
  calls : List Call

namespace Tracked

def putWorld (world : σ) (s : Tracked σ) : Tracked σ := { s with world }

@[simp] theorem world_putWorld (world : σ) (s : Tracked σ) : (putWorld world s).world = world := rfl

/-- Something is called on one page, which is not closed. -/
def Uses (page : Nat) (s t : Tracked σ) : Prop :=
  ∃ events : List Event, .closed ∉ events ∧ t.calls = s.calls ++ events.map (on page)

/-- Pages are opened, used and closed, one after another. -/
def Visits (s t : Tracked σ) : Prop :=
  ∃ calls, IsScoped (pages s.calls).length calls ∧ t.calls = s.calls ++ calls

theorem Uses.refl (page : Nat) (s : Tracked σ) : Uses page s s := ⟨[], List.not_mem_nil, by simp⟩

theorem Uses.trans {page : Nat} {s t u : Tracked σ} (h : Uses page s t) (hlater : Uses page t u) :
    Uses page s u := by
  obtain ⟨events, hevents, ht⟩ := h
  obtain ⟨more, hmore, hu⟩ := hlater
  refine ⟨events ++ more, ?_, by rw [hu, ht, List.map_append, List.append_assoc]⟩
  rw [List.mem_append]
  exact not_or.mpr ⟨hevents, hmore⟩

theorem Visits.of_calls_eq {s t : Tracked σ} (h : t.calls = s.calls) : Visits s t :=
  ⟨[], isScoped_nil _, by rw [h, List.append_nil]⟩

theorem Visits.trans {s t u : Tracked σ} (h : Visits s t) (hlater : Visits t u) : Visits s u := by
  obtain ⟨calls, hcalls, ht⟩ := h
  obtain ⟨more, hmore, hu⟩ := hlater
  rw [ht, pages_append, List.length_append] at hmore
  exact ⟨calls ++ more, hcalls.append hmore, by rw [hu, ht, List.append_assoc]⟩

end Tracked

open Tracked

namespace Routine

def trackedAs (page : Nat) (event : Event) (routine : Routine σ α) : Routine (Tracked σ) α := fun s =>
  ⟨(routine s.world).value, ⟨(routine s.world).state, s.calls ++ [on page event]⟩,
    (routine s.world).log⟩

theorem uses_trackedAs {page : Nat} {event : Event} (hevent : event ≠ .closed)
    (routine : Routine σ α) :
    Extends world (Uses page) (routine.trackedAs page event) routine :=
  fun _ => ⟨rfl, [event], List.mem_singleton.not.mpr hevent.symm, rfl⟩

theorem uses_isCongruence (page : Nat) :
    IsCongruence (σ := σ) fun {_} tracked routine => Extends world (Uses page) tracked routine :=
  extends_isCongruence (Uses.refl page) fun _ _ _ => Uses.trans

theorem visits_isCongruence :
    IsCongruence (σ := σ) fun {_} tracked routine => Extends world Visits tracked routine :=
  extends_isCongruence (fun _ => Visits.of_calls_eq rfl) fun _ _ _ => Visits.trans

end Routine

def Page.tracked (page : Page σ η) (number : Nat) : Page (Tracked σ) η where
  visit url := (page.visit url).trackedAs number (.visited url)
  find selector := (page.find selector).trackedAs number (.queried selector)
  attributeOf element name := (page.attributeOf element name).trackedAs number (.attributeRead name)
  textOf element := (page.textOf element).trackedAs number .textRead
  perform interaction := (page.perform interaction).trackedAs number (.performed interaction)
  close := page.close.trackedAs number .closed

theorem Page.tracked_related (page : Page σ η) (number : Nat) :
    Page.Related (fun {_} tracked routine => Extends world (Uses number) tracked routine)
      (page.tracked number) page where
  find _ := uses_trackedAs (by nofun) _
  attributeOf _ _ := uses_trackedAs (by nofun) _
  textOf _ := uses_trackedAs (by nofun) _
  visit _ := uses_trackedAs (by nofun) _
  perform _ := uses_trackedAs (by nofun) _

/-- A way to open pages, with the openings put on record.  The pages are numbered. -/
def Routine.trackedOpening (openPage : Routine σ (Page σ η)) :
    Routine (Tracked σ) (Page (Tracked σ) η) := fun s =>
  let number := (pages s.calls).length
  let opened := openPage s.world
  match opened.value with
  | .ok page =>
      ⟨.ok (page.tracked number), ⟨opened.state, s.calls ++ [opening (some number)]⟩, opened.log⟩
  | .error fault => ⟨.error fault, ⟨opened.state, s.calls ++ [opening none]⟩, opened.log⟩

namespace Tracked

/-- Something is called on one page, which is closed in the end. -/
def Closes (page : Nat) (s t : Tracked σ) : Prop :=
  ∃ events : List Event, .closed ∉ events ∧
    t.calls = s.calls ++ (events.map (on page) ++ [on page .closed])

end Tracked

namespace Routine

theorem closes_finally {page : Nat} {tracked : Routine (Tracked σ) α} {routine : Routine σ α}
    (h : Extends world (Uses page) tracked routine) (close : Routine σ Unit) :
    Extends world (Closes page) (tracked.finally_ (close.trackedAs page .closed))
      (routine.finally_ close) := by
  have hclose : Extends world (fun s t => t.calls = s.calls ++ [on page .closed])
      (close.trackedAs page .closed) close := fun _ => ⟨rfl, rfl⟩
  refine h.finally hclose fun s t u => ?_
  rintro ⟨events, hevents, ht⟩ hu
  exact ⟨events, hevents, by rw [hu, ht, List.append_assoc]⟩

theorem trackedOpening_of_ok {openPage : Routine σ (Page σ η)} {s : Tracked σ} {page : Page σ η}
    (h : (openPage s.world).value = .ok page) :
    openPage.trackedOpening s = ⟨.ok (page.tracked (pages s.calls).length),
      ⟨(openPage s.world).state, s.calls ++ [opening (some (pages s.calls).length)]⟩,
      (openPage s.world).log⟩ := by
  simp only [trackedOpening, h]

theorem trackedOpening_of_error {openPage : Routine σ (Page σ η)} {s : Tracked σ} {fault : Fault}
    (h : (openPage s.world).value = .error fault) :
    openPage.trackedOpening s = ⟨.error fault, ⟨(openPage s.world).state, s.calls ++ [opening none]⟩,
      (openPage s.world).log⟩ := by
  simp only [trackedOpening, h]

theorem tags_trackedOpening (openPage : Routine σ (Page σ η)) :
    Tags world (fun s page => page.tracked (pages s.calls).length) openPage.trackedOpening
      openPage := by
  have hopening (s : Tracked σ) : ∃ calls, openPage.trackedOpening s =
      ⟨(openPage s.world).value.map fun page => page.tracked (pages s.calls).length,
        ⟨(openPage s.world).state, calls⟩, (openPage s.world).log⟩ := by
    cases h : (openPage s.world).value with
    | ok page => exact ⟨_, trackedOpening_of_ok h⟩
    | error fault => exact ⟨_, trackedOpening_of_error h⟩
  constructor <;> intro s <;> obtain ⟨calls, h⟩ := hopening s <;> rw [h]

/-- A page is opened, and unless that fails, it is closed by what follows. -/
theorem visits_outcome_bind {openPage : Routine σ (Page σ η)}
    {next' : Except Failure (Page (Tracked σ) η) → Routine (Tracked σ) α}
    {next : Except Failure (Page σ η) → Routine σ α}
    (hok : ∀ (page : Page σ η) number,
      Extends world (Closes number) (next' (.ok (page.tracked number))) (next (.ok page)))
    (herror : ∀ failure, Extends world Visits (next' (.error failure)) (next (.error failure))) :
    Extends world Visits (openPage.trackedOpening.outcome >>= next') (openPage.outcome >>= next) := by
  have hunopened {s : Tracked σ} {fault : Fault} (h : (openPage s.world).value = .error fault) :
      Visits s (openPage.trackedOpening.outcome s).state := by
    rw [outcome_state, trackedOpening_of_error h]
    exact ⟨[opening none], isScoped_unopened _, rfl⟩
  refine (tags_trackedOpening openPage).outcome.bind (fun s ended h => ?_) fun s fault h => ?_
  · cases ended with
    | ok page =>
        refine ⟨_, hok page _, fun t => ?_⟩
        rintro ⟨events, hevents, hcalls⟩
        refine ⟨session (pages s.calls).length events, isScoped_session hevents, ?_⟩
        rw [outcome_state, trackedOpening_of_ok (value_of_outcome_eq_ok h)] at hcalls
        exact hcalls.trans (List.append_assoc _ _ _)
    | error failure =>
        exact ⟨_, herror failure, fun t => (hunopened (value_of_outcome_eq_ok h)).trans⟩
  · exact hunopened (value_of_outcome_eq_error h).1

end Routine

open Routine

theorem Validation.visits_validate (openPage : Routine σ (Page σ η)) (scenario : Scenario)
    (url : Text) :
    Extends world Visits (validate standardResolver openPage.trackedOpening scenario url)
      (validate standardResolver openPage scenario url) := by
  have hcongruence := visits_isCongruence (σ := σ)
  refine hcongruence.bind (hcongruence.log _ _) fun _ => ?_
  refine visits_outcome_bind (fun page number => ?_) fun failure => hcongruence.done _
  have hpages := page.tracked_related number
  have hon := related_validateOn
    (related_standardResolver (uses_isCongruence number) hpages.toReadsRelated)
    (uses_isCongruence number) hpages scenario url
  have hquiet : IsCongruence (σ := σ) fun {_} tracked routine =>
      Extends world (fun s t : Tracked σ => t.calls = s.calls) tracked routine :=
    extends_isCongruence (fun _ => rfl) fun _ _ _ h hlater => hlater.trans h
  refine (closes_finally hon page.close).bind (Q := fun s t => t.calls = s.calls)
    (fun ended => ?_) (fun _ _ => id) fun s t u hclosed hcalls => ?_
  · cases ended with
    | error error => exact hquiet.done _
    | ok outcomes => exact hquiet.bind (hquiet.log _ _) fun _ => hquiet.done _
  · obtain ⟨events, hevents, ht⟩ := hclosed
    exact ⟨events, hevents, hcalls.trans ht⟩

namespace Run

def Plan.tracked (plan : Plan σ η) : Plan (Tracked σ) η where
  client? := plan.client?.map fun client request => (client request).within world putWorld
  model := plan.model
  openPage := plan.openPage.trackedOpening
  resolver := Validation.standardResolver
  isCancelled s := plan.isCancelled s.world
  options := plan.options
  meanwhile s := putWorld (plan.meanwhile s.world) s
  replyDepth := plan.replyDepth

theorem Plan.tracked_related {plan : Plan σ η} (hplan : plan.resolver = Validation.standardResolver) :
    plan.tracked.Related (fun {_} tracked routine => Extends world Visits tracked routine) plan where
  model := rfl
  options := rfl
  replyDepth := rfl
  reply objective := by
    refine Generation.related_generate visits_isCongruence (fun client request => ?_) _ _
    exact extends_within world_putWorld (fun _ _ => Visits.of_calls_eq rfl) _
  poll _ := ⟨rfl, Visits.of_calls_eq rfl⟩
  validateOne url scenario := by
    unfold Run.validateOne
    rw [hplan]
    exact Validation.visits_validate plan.openPage scenario url

/-- In every run, at most one page is open at a time, nothing is called on a page that is
closed, and each page that was opened is closed once; whatever the pages do, and however
the run ends. -/
theorem run_pages_scoped (plan : Plan σ η) (hplan : plan.resolver = Validation.standardResolver)
    (occasion : Occasion) (objective : Objective) (s : σ) :
    ∃ calls, run plan.tracked occasion objective ⟨s, []⟩ =
        ⟨(run plan occasion objective s).value, ⟨(run plan occasion objective s).state, calls⟩,
          (run plan occasion objective s).log⟩ ∧
      IsScoped 0 calls := by
  obtain ⟨hended, calls, hcalls, hstate⟩ :=
    related_run visits_isCongruence (Plan.tracked_related hplan) occasion objective ⟨s, []⟩
  rw [List.nil_append] at hstate
  refine ⟨calls, ?_, hcalls⟩
  rw [← hended, ← hstate]
  rfl

/-- The second page is interrupted at its address, and then fails to close. -/
def stubbornPage (number : Nat) : Page Nat Unit :=
  { emptyPage with
    visit := fun _ => if number = 0 then pure () else stop (.interrupt "")
    close := if number = 0 then pure () else fail ⟨"Error", "still open"⟩ }

def stubbornPlan : Plan Nat Unit :=
  { onePagePlan twoScenariosReply with
    openPage := fun opened => ⟨.ok (stubbornPage opened), opened + 1, []⟩ }

theorem run_stubbornPlan_scoped :
    stubbornPlan.resolver = Validation.standardResolver ∧
      (run stubbornPlan rehearsal anyObjective 0).value =
        .error (.failure ⟨"Error", "still open"⟩) ∧
      IsScoped 0 [opening (some 0), on 0 (.visited "/"), on 0 (.queried "#a"), on 0 .closed,
        opening (some 1), on 1 (.visited "/"), on 1 .closed] := by
  obtain ⟨calls, hrun, hscoped⟩ := run_pages_scoped stubbornPlan rfl rehearsal anyObjective 0
  have hcalls : (run stubbornPlan.tracked rehearsal anyObjective ⟨0, []⟩).state.calls =
      [opening (some 0), on 0 (.visited "/"), on 0 (.queried "#a"), on 0 .closed,
        opening (some 1), on 1 (.visited "/"), on 1 .closed] := by
    decide +kernel
  rw [hrun] at hcalls
  exact ⟨rfl, by decide +kernel, hcalls ▸ hscoped⟩

end Run

end PageScript
