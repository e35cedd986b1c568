import PageScript.Proofs.EscapingFailures
/-!
Fresh pages that are all alike.  Each page that is opened does what one model page does,
from the same state of the model on.  Whatever else the world holds, validation then
comes to what it comes to on the model.
-/

namespace PageScript

open Scripted (Event)

variable {σ ω η α β : Type}

namespace Routine

/-- In states that are related, the routines end alike, and in states that are related. -/
def Mirrors (B : σ → ω → Prop) {α : Type} (routine : Routine σ α) (shown : Routine ω α) : Prop :=
  ∀ s w, B s w → (routine s).value = (shown w).value ∧ B (routine s).state (shown w).state

variable {B : σ → ω → Prop}

theorem Mirrors.outcome {routine : Routine σ α} {shown : Routine ω α}
    (h : Mirrors B routine shown) : Mirrors B routine.outcome shown.outcome := by
  intro s w hB
  obtain ⟨hvalue, hstate⟩ := h s w hB
  rw [outcome_state, outcome_state]
  refine ⟨?_, hstate⟩
  rcases value_cases (shown w).value with ⟨a, hw⟩ | ⟨failure, hw⟩ | ⟨message, hw⟩
  · rw [outcome_of_ok hw, outcome_of_ok (hvalue.trans hw)]
  · rw [outcome_of_failure hw, outcome_of_failure (hvalue.trans hw)]
  · rw [outcome_of_interrupt hw, outcome_of_interrupt (hvalue.trans hw)]

theorem Mirrors.bind {first : Routine σ α} {first' : Routine ω α} {next : α → Routine σ β}
    {next' : α → Routine ω β} (hfirst : Mirrors B first first')
    (hnext : ∀ a, Mirrors B (next a) (next' a)) :
    Mirrors B (first >>= next) (first' >>= next') := by
  intro s w hB
  obtain ⟨hvalue, hstate⟩ := hfirst s w hB
  cases hw : (first' w).value with
  | error fault =>
      rw [bind_of_error hw, bind_of_error (hvalue.trans hw)]
      exact ⟨rfl, hstate⟩
  | ok a =>
      rw [bind_of_ok hw, bind_of_ok (hvalue.trans hw)]
      exact hnext a _ _ hstate

theorem mirrors_isCongruence (B : σ → ω → Prop) :
    IsCongruence fun {_} routine shown => Mirrors B routine shown where
  done _ _ _ hB := ⟨rfl, hB⟩
  log _ _ _ _ hB := ⟨rfl, hB⟩
  bind := Mirrors.bind
  outcome := Mirrors.outcome

/-- States whose records grow alike, the first behind what was there `before`. -/
def OnRecord (B : σ → ω → Prop) (before : List Event) (s : Recorded σ) (w : Recorded ω) : Prop :=
  B s.world w.world ∧ s.trace = before ++ w.trace

theorem Mirrors.recordedAs {routine : Routine σ α} {shown : Routine ω α} (h : Mirrors B routine shown)
    (before : List Event) (event : Event) :
    Mirrors (OnRecord B before) (routine.recordedAs event) (shown.recordedAs event) := by
  rintro s w ⟨hB, htrace⟩
  obtain ⟨hvalue, hstate⟩ := h _ _ hB
  refine ⟨hvalue, hstate, ?_⟩
  change s.trace ++ [event] = before ++ (w.trace ++ [event])
  rw [htrace, List.append_assoc]

end Routine

open Routine

/-- A page that does what the model does: states that `B` relates stay so while it is open,
and closing it leads to states that `C` relates. -/
structure Page.Mirrors (B C : σ → ω → Prop) (page : Page σ η) (model : Page ω η) : Prop
    extends Page.Related (fun {_} routine shown => Routine.Mirrors B routine shown) page model where
  close : ∀ s w, B s w →
    (page.close s).value = (model.close w).value ∧ C (page.close s).state (model.close w).state

/-- In the states of `I`, each page that is opened is like the model in the state `fresh`,
and closing it leads back to a state of `I`. -/
def OpensLike (I : σ → Prop) (openPage : Routine σ (Page σ η)) (model : Page ω η) (fresh : ω) :
    Prop :=
  ∀ s, I s → ∃ page B, (openPage s).value = .ok page ∧ B (openPage s).state fresh ∧
    page.Mirrors B (fun t _ => I t) model

/-- The model page, opened. -/
def openingOf (model : Page ω η) (fresh : ω) : Routine ω (Page ω η) := fun _ => ⟨.ok model, fresh, []⟩

theorem Page.Mirrors.recorded {B C : σ → ω → Prop} {page : Page σ η} {model : Page ω η}
    (h : page.Mirrors B C model) (before : List Event) :
    page.recorded.Mirrors (OnRecord B before) (OnRecord C before) model.recorded where
  find selector := (h.find selector).recordedAs before _
  attributeOf element name := (h.attributeOf element name).recordedAs before _
  textOf element := (h.textOf element).recordedAs before _
  visit url := (h.visit url).recordedAs before _
  perform interaction := (h.perform interaction).recordedAs before _
  close s w hB := by
    obtain ⟨hvalue, hstate⟩ := h.close _ _ hB.1
    refine ⟨hvalue, hstate, ?_⟩
    change s.trace ++ [.closed] = before ++ (w.trace ++ [.closed])
    rw [hB.2, List.append_assoc]

namespace Validation

variable {I : σ → Prop} {B C : σ → ω → Prop} {openPage : Routine σ (Page σ η)}
  {openModel : Routine ω (Page ω η)} {page : Page σ η} {model : Page ω η} {fresh : ω} {s : σ} {w : ω}

theorem mirrors_validate (hpage : page.Mirrors B C model) (hopened : (openPage s).value = .ok page)
    (hmodel : (openModel w).value = .ok model) (hB : B (openPage s).state (openModel w).state)
    (scenario : Scenario) (url : Text) :
    (validate standardResolver openPage scenario url s).value =
        (validate standardResolver openModel scenario url w).value ∧
      C (validate standardResolver openPage scenario url s).state
        (validate standardResolver openModel scenario url w).state := by
  have hcongruence := mirrors_isCongruence B
  have hon : Routine.Mirrors B (validateOn standardResolver page scenario url)
      (validateOn standardResolver model scenario url) :=
    related_validateOn (related_standardResolver hcongruence hpage.toReadsRelated) hcongruence
      hpage.toRelated scenario url
  obtain ⟨hvalue, hstate⟩ := hon _ _ hB
  obtain ⟨hclosed, hlast⟩ := hpage.close _ _ hstate
  rw [(validate_of_opened hopened).1, (validate_of_opened hopened).2,
    (validate_of_opened hmodel).1, (validate_of_opened hmodel).2, hclosed, hvalue]
  exact ⟨rfl, hlast⟩

/-- What validating a scenario comes to on the model. -/
def rehearsed (model : Page ω η) (fresh : ω) (scenario : Scenario) (url : Text) :
    Except Fault (Except NavigationError Report) :=
  (validate standardResolver (openingOf model fresh) scenario url fresh).value

theorem validate_of_opensLike (hopens : OpensLike I openPage model fresh) (hs : I s)
    (scenario : Scenario) (url : Text) :
    (validate standardResolver openPage scenario url s).value = rehearsed model fresh scenario url ∧
      I (validate standardResolver openPage scenario url s).state := by
  obtain ⟨page, B, hopened, hB, hpage⟩ := hopens s hs
  have hmodel : (openingOf model fresh fresh).value = .ok model := rfl
  exact mirrors_validate hpage hopened hmodel hB scenario url

theorem trace_of_opensLike (hopens : OpensLike I openPage model fresh) (hs : I s)
    (scenario : Scenario) (url : Text) :
    (validate standardResolver openPage.recordedOpening scenario url ⟨s, []⟩).state.trace =
      (validate standardResolver (openingOf model fresh).recordedOpening scenario url
        ⟨fresh, []⟩).state.trace := by
  obtain ⟨page, B, hopened, hB, hpage⟩ := hopens s hs
  have hopened' : (openPage.recordedOpening ⟨s, []⟩).value = .ok page.recorded :=
    congrArg (Except.map Page.recorded) hopened
  have hmodel : ((openingOf model fresh).recordedOpening ⟨fresh, []⟩).value = .ok model.recorded :=
    rfl
  obtain ⟨-, -, htrace⟩ :=
    mirrors_validate (hpage.recorded []) hopened' hmodel ⟨hB, rfl⟩ scenario url
  exact htrace

end Validation

namespace Scripted

def Script.asking {α : Type} (result : Script → Except Fault α) : Routine Script α :=
  fun script => ⟨result script, script, []⟩

/-- A scripted page by itself: its state is its script. -/
def Script.page : Page Script Element where
  visit _ := asking fun script => raise? script.visitFault?
  find selector := asking fun script => script.find selector
  attributeOf element name := asking fun script => script.attributeOf element name
  textOf element := asking fun script => script.textOf element
  perform interaction := fun script =>
    match script.perform interaction with
    | .error fault => ⟨.error fault, script, []⟩
    | .ok (after, _) => ⟨.ok (), after, []⟩
  close := asking fun script => raise? script.closeFault?

theorem Script.page_readsKeep : Script.page.ReadsKeep id where
  find _ _ := rfl
  attributeOf _ _ _ := rfl
  textOf _ _ := rfl

/-- The stage has one script for all pages, and is not cancelled. -/
def Stage.Repeats (script : Script) (stage : Stage) : Prop :=
  stage.coming = [script] ∧ stage.cancelled = false

/-- The page at a place stands where the script by itself does. -/
structure Stage.Shows (script : Script) (i : Nat) (stage : Stage) (shown : Script) : Prop where
  repeats : stage.Repeats script
  place : i < stage.pages.length
  page_eq : stage.page i = shown
  hooks_eq : shown.hooks = script.hooks

variable {script : Script} {i : Nat}

theorem Stage.mirrors_reading {α : Type} (event : Event) (result : Script → Except Fault α) :
    Routine.Mirrors (Stage.Shows script i) (Stage.reading i event result)
      (Script.asking result) := by
  intro stage shown h
  refine ⟨congrArg result h.page_eq, ?_⟩
  exact ⟨h.repeats, h.place, h.page_eq, h.hooks_eq⟩

/-- An interaction leaves the hooks as they are, and cancels the run only if its hook does. -/
theorem Script.perform_eq_ok {before after : Script} {interaction : Interaction} {cancels : Bool}
    (h : before.perform interaction = .ok (after, cancels)) :
    after.hooks = before.hooks ∧
      ((∀ hook ∈ before.hooks, hook.2.cancels = false) → cancels = false) := by
  obtain ⟨-, -, h⟩ := bind_eq_ok h
  split at h
  · exact absurd h nofun
  · split at h
    · obtain ⟨rfl, rfl⟩ := Prod.mk.inj (Except.ok.inj h)
      exact ⟨rfl, fun _ => rfl⟩
    · rename_i hook hlookup
      obtain ⟨rfl, rfl⟩ := Prod.mk.inj (Except.ok.inj h)
      obtain ⟨earlier, later, hlisted, -⟩ := List.lookup_eq_some_iff.mp hlookup
      have hmem : (listing interaction, hook) ∈ before.hooks := by
        rw [hlisted]
        exact List.mem_append_right earlier List.mem_cons_self
      exact ⟨rfl, fun hhooks => hhooks _ hmem⟩

theorem Stage.mirrors_acting (hhooks : ∀ hook ∈ script.hooks, hook.2.cancels = false)
    (interaction : Interaction) :
    Routine.Mirrors (Stage.Shows script i) (Stage.acting i interaction)
      (Script.page.perform interaction) := by
  intro stage shown h
  have hpage : ({ stage with trace := stage.trace ++ [Event.performed interaction] } : Stage).page i =
    shown := h.page_eq
  unfold Stage.acting Script.page
  dsimp only
  rw [hpage]
  cases hperform : shown.perform interaction with
  | error fault => exact ⟨rfl, h.repeats, h.place, h.page_eq, h.hooks_eq⟩
  | ok ended =>
      obtain ⟨after, cancels⟩ := ended
      obtain ⟨hsame, hcancels⟩ := Script.perform_eq_ok hperform
      rw [h.hooks_eq] at hcancels
      obtain rfl := hcancels hhooks
      have hcancelled : (stage.cancelled || false) = false := by
        rw [Bool.or_false, h.repeats.2]
      have hplace : i < (stage.pages.set i after).length := by
        rw [List.length_set]
        exact h.place
      have hafter : (stage.pages.set i after).getD i {} = after := by
        rw [List.getD_eq_getElem?_getD, List.getElem?_set_self h.place, Option.getD_some]
      exact ⟨rfl, ⟨h.repeats.1, hcancelled⟩, hplace, hafter, hsame.trans h.hooks_eq⟩

theorem Stage.opensLike (script : Script) (hopen : script.openFault? = none)
    (hfree : script.cancelsOnOpen = false) (hhooks : ∀ hook ∈ script.hooks, hook.2.cancels = false) :
    OpensLike (Stage.Repeats script) Stage.openPage Script.page script := by
  rintro ⟨coming, pages, trace, cancelled⟩ ⟨hcoming, hcancelled⟩
  obtain rfl : coming = [script] := hcoming
  obtain rfl : cancelled = false := hcancelled
  have hopened : Stage.openPage ⟨[script], pages, trace, false⟩ =
      ⟨.ok (Stage.pageAt pages.length), ⟨[script], pages ++ [script], trace ++ [.opened], false⟩,
        []⟩ := by
    simp [Stage.openPage, Stage.afterNext, hopen, hfree]
  rw [hopened]
  refine ⟨Stage.pageAt pages.length, Stage.Shows script pages.length, rfl, ?_, ?_⟩
  · refine ⟨⟨rfl, rfl⟩, ?_, ?_, rfl⟩
    · simp
    · simp [Stage.page]
  · exact {
      find := fun _ => Stage.mirrors_reading _ _
      attributeOf := fun _ _ => Stage.mirrors_reading _ _
      textOf := fun _ => Stage.mirrors_reading _ _
      visit := fun _ => Stage.mirrors_reading _ _
      perform := Stage.mirrors_acting hhooks
      close := fun stage shown h =>
        (Stage.mirrors_reading .closed _ stage shown h).imp_right Stage.Shows.repeats }

end Scripted

namespace Validation

/-- A page whose dialog appears when it is opened. -/
def dialogScript : Scripted.Script where
  elements := [("#open", ⟨[("data-testid", some "opener")], none⟩)]
  hooks := [("click #open", ⟨⟨[("#dialog", ⟨[], none⟩)], []⟩, false⟩)]

theorem opensLike_dialogScript :
    OpensLike (Scripted.Stage.Repeats dialogScript) Scripted.Stage.openPage Scripted.Script.page
      dialogScript :=
  Scripted.Stage.opensLike dialogScript rfl rfl (by decide)

/-- A scenario that opens the dialog and writes into it. -/
def dialogScenario : Scenario where
  id := "s-1"
  name := "dialog"
  description? := none
  steps := [⟨.click, "#open", none, ""⟩, ⟨.type, "#dialog", some "text", ""⟩]
  tags := []

end Validation

end PageScript
