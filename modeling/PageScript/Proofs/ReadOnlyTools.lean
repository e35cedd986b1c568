import PageScript.Proofs.AttemptedRoutines
import PageScript.Proofs.MirroredPages
import PageScript.Toolbox

namespace PageScript

open Scripted (Event)

variable {σ τ ω η : Type}

section

open Routine

variable {R : ∀ {α : Type}, Routine τ α → Routine σ α → Prop} {page' : Page τ η} {page : Page σ η}

theorem Resolution.related_candidates (hR : IsCongruence R) (hpages : Page.ReadsRelated R page' page)
    (element : η) (tiers : List Tier) :
    R (candidates page' element tiers) (candidates page element tiers) := by
  induction tiers with
  | nil => exact hR.done []
  | cons tier tiers ih =>
      refine hR.bind (related_candidate hR hpages element tier) fun candidate? => ?_
      exact hR.bind ih fun more => hR.done _

theorem Resolution.related_suggest (hR : IsCongruence R) (hpages : Page.ReadsRelated R page' page)
    (selector : Text) : R (suggest page' selector) (suggest page selector) := by
  refine hR.bind (hpages.find selector) fun found => ?_
  cases found with
  | none => exact hR.done []
  | some element => exact related_candidates hR hpages element _

namespace Toolbox

theorem related_readAttributes (hR : IsCongruence R) (hpages : Page.ReadsRelated R page' page)
    (element : η) (names : List Text) :
    R (readAttributes page' element names) (readAttributes page element names) := by
  induction names with
  | nil => exact hR.done []
  | cons name names ih =>
      refine hR.bind (hpages.attributeOf element name) fun value? => ?_
      exact hR.bind ih fun more => hR.done _

theorem related_withElement (hR : IsCongruence R) (hpages : Page.ReadsRelated R page' page)
    (selector : Text) {use' : η → Routine τ Answer} {use : η → Routine σ Answer}
    (huse : ∀ element, R (use' element) (use element)) :
    R (withElement page' selector use') (withElement page selector use) := by
  refine hR.bind (hpages.find selector) fun found => ?_
  cases found with
  | none => exact hR.done _
  | some element => exact hR.bind (huse element) fun answer => hR.done _

/-- Each tool does on a page what the methods that look at it do; also the check of a selector
for an interaction. -/
theorem related_answer (hR : IsCongruence R) (hpages : Page.ReadsRelated R page' page)
    (call : Call) : R (answer page' call) (answer page call) := by
  cases call with
  | validateSelector selector context action =>
      unfold answer
      dsimp only
      split
      · exact hR.done _
      · rename_i step _
        exact hR.bind (Resolution.related_resolve hR hpages step 0) fun outcome => hR.done _
  | suggestSelectors selector =>
      refine hR.bind (hR.orElse (Resolution.related_suggest hR hpages selector) fun failure => ?_)
        fun found => hR.done _
      exact hR.bind (hR.log _ _) fun _ => hR.done []
  | elementText selector =>
      refine related_withElement hR hpages selector fun element => ?_
      exact hR.bind (hpages.textOf element) fun text? => hR.done _
  | elementAttributes selector attributes =>
      refine related_withElement hR hpages selector fun element => ?_
      exact hR.bind (related_readAttributes hR hpages element attributes) fun pairs => hR.done _

theorem related_call (hR : IsCongruence R) (hpages : Page.ReadsRelated R page' page)
    (name : Text) (arguments : Datum) : R (call page' name arguments) (call page name arguments) := by
  unfold call
  split
  · exact hR.done _
  · split
    · exact hR.done _
    · exact hR.bind (hR.log _ _) fun _ => related_answer hR hpages _

end Toolbox

end

/-- What is found when the page is looked at depends on what `view` shows of the state alone,
and stays as it is. -/
structure Page.LooksAt (view : σ → ω) (page : Page σ η) : Prop where
  alike : Page.ReadsRelated
    (fun {_} routine same => Routine.Mirrors (fun s t => view s = view t) routine same) page page
  keeps : page.ReadsKeep view

theorem Page.ReadsKeep.looksAt {page : Page σ η} (hpage : page.ReadsKeep id) :
    page.LooksAt id := by
  have hsame : ∀ {α : Type} (routine : Routine σ α),
      Routine.Mirrors (fun s t => id s = id t) routine routine := by
    rintro α routine s t rfl
    exact ⟨rfl, rfl⟩
  exact {
    alike := ⟨fun _ => hsame _, fun _ _ => hsame _, fun _ => hsame _⟩
    keeps := hpage }

namespace Toolbox

open Routine

variable {view : σ → ω} {page : Page σ η}

theorem records_call (page : Page σ η) (name : Text) (arguments : Datum) :
    Records Event.isRead (call page.recorded name arguments) (call page name arguments) :=
  related_call (records_isCongruence Event.isRead) page.recorded_readsRelated name arguments

theorem keeps_call (hpage : page.LooksAt view) (name : Text) (arguments : Datum) :
    Keeps view (call page name arguments) :=
  related_call (keeps_isCongruence view) hpage.keeps name arguments

theorem mirrors_call (hpage : page.LooksAt view) (before : List Event) (name : Text)
    (arguments : Datum) :
    Mirrors (OnRecord (fun s t => view s = view t) before) (call page.recorded name arguments)
      (call page.recorded name arguments) := by
  refine related_call (mirrors_isCongruence _) ?_ name arguments
  exact {
    find := fun selector => (hpage.alike.find selector).recordedAs before _
    attributeOf := fun element name => (hpage.alike.attributeOf element name).recordedAs before _
    textOf := fun element => (hpage.alike.textOf element).recordedAs before _ }

/-- Calls one after another, whatever each of them comes to. -/
def callAll (page : Page σ η) (calls : List (Text × Datum)) :
    Routine σ (List (Except Fault (Except Error Answer))) :=
  attemptAll (calls.map fun (name, arguments) => call page name arguments)

theorem records_callAll (page : Page σ η) (calls : List (Text × Datum)) :
    Records Event.isRead (callAll page.recorded calls) (callAll page calls) := by
  rw [records_iff_extends]
  refine attemptAll_extends (Recorded.Grows.refl _) (fun _ _ _ => Recorded.Grows.trans) ?_
  rw [List.forall₂_map_left_iff, List.forall₂_map_right_iff, List.forall₂_same]
  exact fun requested _ => records_iff_extends.mp (records_call page requested.1 requested.2)

/-- The calls that a tool makes on the page when nothing was called before. -/
def callsMade (page : Page σ η) (s : σ) (requested : Text × Datum) : List Event :=
  (call page.recorded requested.1 requested.2 ⟨s, []⟩).state.trace

/-- Later on, a call ends as it does at first, and makes the same calls on the page. -/
theorem call_later (hpage : page.LooksAt view) {s : σ} {later : Recorded σ}
    (hlater : view later.world = view s) (requested : Text × Datum) :
    (call page.recorded requested.1 requested.2 later).value =
        (call page requested.1 requested.2 s).value ∧
      (call page.recorded requested.1 requested.2 later).state.trace =
        later.trace ++ callsMade page s requested ∧
      view (call page.recorded requested.1 requested.2 later).state.world = view s := by
  have hfirst : OnRecord (fun s t => view s = view t) later.trace later ⟨s, []⟩ :=
    ⟨hlater, (List.append_nil _).symm⟩
  obtain ⟨hvalue, hworld, htrace⟩ :=
    mirrors_call hpage later.trace requested.1 requested.2 later ⟨s, []⟩ hfirst
  obtain ⟨more, -, hplain⟩ := records_call page requested.1 requested.2 s []
  have hkeeps := keeps_call hpage requested.1 requested.2 s
  rw [hplain] at hvalue hworld
  exact ⟨hvalue, htrace, hworld.trans hkeeps⟩

theorem callAll_later (hpage : page.LooksAt view) (calls : List (Text × Datum)) {s : σ}
    {later : Recorded σ} (hlater : view later.world = view s) :
    (callAll page.recorded calls later).value =
        .ok (calls.map fun requested => (call page requested.1 requested.2 s).value) ∧
      (callAll page.recorded calls later).state.trace =
        later.trace ++ calls.flatMap (callsMade page s) ∧
      view (callAll page.recorded calls later).state.world = view s := by
  induction calls generalizing later with
  | nil => exact ⟨rfl, (List.append_nil _).symm, hlater⟩
  | cons requested calls ih =>
      obtain ⟨hvalue, htrace, hview⟩ := call_later hpage hlater requested
      obtain ⟨hvalues, htraces, hviews⟩ := ih hview
      have hall : callAll page.recorded (requested :: calls) later = _ := attemptAll_cons hvalues
      rw [hall, hvalue]
      refine ⟨rfl, ?_, hviews⟩
      rw [List.flatMap_cons, ← List.append_assoc, ← htrace]
      exact htraces

/-- In every sequence of calls on a page, each call has the result or the error that it has by
itself, whatever the others come to; the page is only looked at, by the calls that each makes by
itself, and shows at the end what it showed at the beginning. -/
theorem callAll_eachAlone (hpage : page.LooksAt view) (calls : List (Text × Datum)) (s : σ) :
    (callAll page calls s).value =
        .ok (calls.map fun requested => (call page requested.1 requested.2 s).value) ∧
      view (callAll page calls s).state = view s ∧
      (callAll page.recorded calls ⟨s, []⟩).through Recorded.world = callAll page calls s ∧
      (callAll page.recorded calls ⟨s, []⟩).state.trace = calls.flatMap (callsMade page s) ∧
      ∀ event ∈ (callAll page.recorded calls ⟨s, []⟩).state.trace, event.isRead = true := by
  have hstart : view (⟨s, []⟩ : Recorded σ).world = view s := rfl
  obtain ⟨hvalues, htraces, hviews⟩ := callAll_later hpage calls hstart
  obtain ⟨more, hmore, hplain⟩ := records_callAll page calls s []
  rw [hplain] at hvalues hviews
  refine ⟨hvalues, hviews, ?_, htraces, ?_⟩
  · rw [hplain]
    rfl
  · rw [hplain]
    exact hmore

/-- A page with one button, whose role cannot be read. -/
def buttonScript : Scripted.Script :=
  { elements := [("#go", ⟨[("data-testid", some "go")], some " Go "⟩)]
    attributeFaults := [("role", .failure ⟨"Error", "detached"⟩)] }

def buttonCalls : List (Text × Datum) :=
  [("get_element_attributes", .map [("selector", .text "#go")]),
   ("click", .null),
   ("validate_selector", .map [("selector", .text "#go"), ("action", .text "fill")]),
   ("get_element_text", .map [("selector", .text "#go")])]

theorem callAll_buttonCalls_eachAlone :
    Scripted.Script.page.LooksAt id ∧
      (callAll Scripted.Script.page buttonCalls buttonScript).value = .ok
        [.error (.failure ⟨"Error", "detached"⟩), .ok (.error (.unknownTool "click")),
          .ok (.ok (.check true .testId (some "[data-testid=\"go\"]") none)),
          .ok (.ok (.text "#go" "Go"))] ∧
      (callAll Scripted.Script.page.recorded buttonCalls ⟨buttonScript, []⟩).state.trace =
        [.queried "#go", .attributeRead "id", .attributeRead "data-testid",
          .attributeRead "aria-label", .attributeRead "role",
          .queried "#go", .attributeRead "data-testid", .queried "#go", .textRead] := by
  have hpage := Scripted.Script.page_readsKeep.looksAt
  obtain ⟨hvalue, -, -, htrace, -⟩ := callAll_eachAlone hpage buttonCalls buttonScript
  rw [hvalue, htrace]
  exact ⟨hpage, rfl, rfl⟩

end Toolbox

end PageScript
