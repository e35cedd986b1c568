import PageScript.Page.Scripted
import PageScript.Proofs.ExtendedState

namespace PageScript

open Scripted (Event)

variable {σ η : Type}

/-- A state with the calls that led to it. -/
structure Recorded (σ : Type) where
  world : σ
  trace : List Event

/-- Whether a call only looks at elements. -/
def Scripted.Event.isRead : Event → Bool
  | .queried _ | .attributeRead _ | .textRead => true
  | .opened | .visited _ | .performed _ | .closed => false

/-- Whether a call opens a page. -/
def Scripted.Event.isOpened : Event → Bool
  | .opened => true
  | _ => false

namespace Routine

variable {α β : Type}

/-- The routine, put on record as an event. -/
def recordedAs (event : Event) (routine : Routine σ α) : Routine (Recorded σ) α := fun s =>
  ⟨(routine s.world).value, ⟨(routine s.world).state, s.trace ++ [event]⟩, (routine s.world).log⟩

/-- The first routine does what the second does, and puts events on record that
satisfy `p`. -/
def Records (p : Event → Bool) {α : Type} (recorded : Routine (Recorded σ) α)
    (plain : Routine σ α) : Prop :=
  ∀ s trace, ∃ more, (∀ event ∈ more, p event = true) ∧
    recorded ⟨s, trace⟩ = ⟨(plain s).value, ⟨(plain s).state, trace ++ more⟩, (plain s).log⟩

theorem records_recordedAs {p : Event → Bool} {event : Event} (hevent : p event = true)
    (routine : Routine σ α) : Records p (routine.recordedAs event) routine := by
  intro s trace
  exact ⟨[event], by simpa using hevent, rfl⟩

/-- The record has grown by events that satisfy `p`. -/
def Recorded.Grows (p : Event → Bool) (s t : Recorded σ) : Prop :=
  ∃ more : List Event, (∀ event ∈ more, p event = true) ∧ t.trace = s.trace ++ more

theorem Recorded.Grows.refl (p : Event → Bool) (s : Recorded σ) : Grows p s s := ⟨[], by simp, by simp⟩

theorem Recorded.Grows.trans {p : Event → Bool} {s t u : Recorded σ} (h : Grows p s t)
    (hlater : Grows p t u) : Grows p s u := by
  obtain ⟨more, hmore, ht⟩ := h
  obtain ⟨later, hevents, hu⟩ := hlater
  exact ⟨more ++ later, List.forall_mem_append.mpr ⟨hmore, hevents⟩,
    by rw [hu, ht, List.append_assoc]⟩

theorem records_iff_extends {p : Event → Bool} {recorded : Routine (Recorded σ) α}
    {plain : Routine σ α} :
    Records p recorded plain ↔ Extends Recorded.world (Recorded.Grows p) recorded plain := by
  constructor
  · rintro h ⟨s, trace⟩
    obtain ⟨more, hmore, heq⟩ := h s trace
    rw [heq]
    exact ⟨rfl, more, hmore, rfl⟩
  · intro h s trace
    obtain ⟨hended, more, hmore, htrace⟩ := h ⟨s, trace⟩
    refine ⟨more, hmore, ?_⟩
    rw [← htrace, ← hended]
    rfl

/-- A record is kept by everything that validation is put together with. -/
theorem records_isCongruence (p : Event → Bool) :
    IsCongruence (σ := σ) (fun {_} recorded plain => Records p recorded plain) := by
  have hextends : IsCongruence (σ := σ) fun {_} recorded plain =>
      Extends Recorded.world (Recorded.Grows p) recorded plain :=
    extends_isCongruence (Recorded.Grows.refl p) fun _ _ _ => Recorded.Grows.trans
  exact {
    done := fun a => records_iff_extends.mpr (hextends.done a)
    log := fun level message => records_iff_extends.mpr (hextends.log level message)
    bind := fun hfirst hnext => records_iff_extends.mpr
      (hextends.bind (records_iff_extends.mp hfirst) fun a => records_iff_extends.mp (hnext a))
    outcome := fun h => records_iff_extends.mpr (hextends.outcome (records_iff_extends.mp h)) }

theorem records_finally {p : Event → Bool} {recorded : Routine (Recorded σ) α}
    {plain : Routine σ α} {cleanup' : Routine (Recorded σ) Unit} {cleanup : Routine σ Unit}
    (h : Records p recorded plain) (hcleanup : Records p cleanup' cleanup) :
    Records p (recorded.finally_ cleanup') (plain.finally_ cleanup) :=
  records_iff_extends.mpr ((records_iff_extends.mp h).finally (records_iff_extends.mp hcleanup)
    fun _ _ _ => Recorded.Grows.trans)

end Routine

/-- The page, with every call put on record. -/
def Page.recorded (page : Page σ η) : Page (Recorded σ) η where
  visit url := (page.visit url).recordedAs (.visited url)
  find selector := (page.find selector).recordedAs (.queried selector)
  attributeOf element name := (page.attributeOf element name).recordedAs (.attributeRead name)
  textOf element := (page.textOf element).recordedAs .textRead
  perform interaction := (page.perform interaction).recordedAs (.performed interaction)
  close := page.close.recordedAs .closed

/-- A way to open pages, with the opening and every call put on record. -/
def Routine.recordedOpening (openPage : Routine σ (Page σ η)) :
    Routine (Recorded σ) (Page (Recorded σ) η) := fun s =>
  ⟨(openPage s.world).value.map Page.recorded,
    ⟨(openPage s.world).state, s.trace ++ [.opened]⟩, (openPage s.world).log⟩

theorem Page.recorded_readsRelated (page : Page σ η) :
    Page.ReadsRelated (fun {_} recorded plain => Routine.Records Event.isRead recorded plain)
      page.recorded page where
  find _ := Routine.records_recordedAs rfl _
  attributeOf _ _ := Routine.records_recordedAs rfl _
  textOf _ := Routine.records_recordedAs rfl _

/-- What is done on a page opens no other. -/
theorem Page.recorded_related (page : Page σ η) :
    Page.Related (fun {_} recorded plain => Routine.Records (!·.isOpened) recorded plain)
      page.recorded page where
  find _ := Routine.records_recordedAs rfl _
  attributeOf _ _ := Routine.records_recordedAs rfl _
  textOf _ := Routine.records_recordedAs rfl _
  visit _ := Routine.records_recordedAs rfl _
  perform _ := Routine.records_recordedAs rfl _

/-- Resolving a step only looks at the page. -/
theorem Resolution.records_resolve (page : Page σ η) (step : Step) (index : Int) :
    Routine.Records Event.isRead (resolve page.recorded step index) (resolve page step index) :=
  related_resolve (Routine.records_isCongruence Event.isRead) page.recorded_readsRelated step index

end PageScript
