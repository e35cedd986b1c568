import PageScript.Proofs.FieldValues
import PageScript.Proofs.SuggestedSelectors

namespace PageScript

open Record Routine

namespace Toolbox

variable {σ η : Type} {I : σ → Prop} {page : Page σ η} {s : σ} {name : Text} {entries : Entries}
variable {tool : Tool} {requested : Call} {error : Error}

theorem Context.finds : Finds Context.read (IsLabel Context.label) :=
  finds_word fun context => by cases context <;> decide

/-- A call as the entries of its arguments tell it. -/
def Call.IsTold (entries : Entries) : Call → Prop
  | .validateSelector selector context action =>
      entries.Gives "selector" IsText selector ∧
        entries.GivesOr "context" (IsLabel Context.label) .validation context ∧
        entries.GivesOr "action" (IsLabel Action.label) .click action
  | .suggestSelectors selector | .elementText selector => entries.Gives "selector" IsText selector
  | .elementAttributes selector attributes =>
      entries.Gives "selector" IsText selector ∧
        entries.GivesOr "attributes" (IsList IsText) usualAttributes attributes

theorem Call.read_eq_valid_iff :
    Call.read tool (.map entries) = .valid requested ↔
      requested.tool = tool ∧ requested.IsTold entries := by
  have hselector (selector : Text) :
      required Call.selectorKey Reader.text entries = .valid selector ↔
        entries.Gives "selector" IsText selector :=
    finds_text.required rfl
  have hcontext (context : Context) :
      optional Call.contextKey .validation Context.read entries = .valid context ↔
        entries.GivesOr "context" (IsLabel Context.label) .validation context :=
    Context.finds.optional rfl
  have haction (action : Action) :
      optional Call.actionKey .click Action.read entries = .valid action ↔
        entries.GivesOr "action" (IsLabel Action.label) .click action :=
    Action.finds.optional rfl
  have hattributes (attributes : List Text) :
      optional Call.attributesKey usualAttributes (Reader.list Reader.text) entries =
        .valid attributes ↔
          entries.GivesOr "attributes" (IsList IsText) usualAttributes attributes :=
    finds_text.list.optional rfl
  cases tool <;> cases requested <;>
    simp [Call.read, Reader.record, Call.tool, Call.IsTold, hselector, hcontext, haction,
      hattributes]

theorem Tool.ofName?_eq_some_iff : Tool.ofName? name = some tool ↔ tool.name = name := by
  constructor
  · intro h
    have hname := List.find?_some h
    exact of_decide_eq_true hname
  · rintro rfl
    cases tool <;> decide

/-- What a selector is refused with that can be the target of no step. -/
def blankSelector : Mismatch := ⟨Step.title, [⟨[.key Step.targetKey.label], .blankTarget⟩]⟩

theorem stepFor_of_blank {selector : Text} (hblank : Text.isBlankText selector = true)
    (context : Context) (action : Action) :
    stepFor selector context action = .error blankSelector := by
  have hread : Step.readTarget (.text selector) = .refuse .blankTarget := by
    simp only [Step.readTarget, Reader.text, hblank, if_true]
  rw [stepFor, hread]
  rfl

/-- The call reads an element that the selector matches. -/
def Call.Reads (requested : Call) (selector : Text) : Prop :=
  requested = .elementText selector ∨
    ∃ attributes, requested = .elementAttributes selector attributes

/-- What keeps a tool from answering, in a state of the page. -/
inductive Call.Fails (page : Page σ η) (s : σ) : Call → Error → Prop where
  | blank {selector : Text} {context : Context} {action : Action}
      (hblank : Text.isBlankText selector = true) :
      Fails page s (.validateSelector selector context action) (.badTarget blankSelector)
  | unmatched {requested : Call} {selector : Text} (hreads : requested.Reads selector)
      (hfind : (page.find selector s).value = .ok none) :
      Fails page s requested (.noElement selector)

theorem withElement_eq_error_iff {selector : Text} {use : η → Routine σ Answer} :
    (withElement page selector use s).value = .ok (.error error) ↔
      (page.find selector s).value = .ok none ∧ error = .noElement selector := by
  constructor
  · intro h
    obtain ⟨found?, hfind, h⟩ := value_bind_eq_ok h
    cases found? with
    | none => exact ⟨hfind, (Except.error.inj (Except.ok.inj h)).symm⟩
    | some element =>
        obtain ⟨answer, -, hanswer⟩ := value_bind_eq_ok h
        exact absurd (Except.ok.inj hanswer) nofun
  · rintro ⟨hfind, rfl⟩
    rw [withElement, bind_of_ok hfind]
    rfl

theorem answer_eq_error_iff :
    (answer page requested s).value = .ok (.error error) ↔ requested.Fails page s error := by
  constructor
  · intro h
    cases requested with
    | validateSelector selector context action =>
        unfold answer at h
        dsimp only at h
        cases hblank : Text.isBlankText selector with
        | true =>
            rw [stepFor_of_blank hblank] at h
            obtain rfl := Except.error.inj (Except.ok.inj h)
            exact .blank hblank
        | false =>
            rw [Resolution.stepFor_of_not_blank hblank] at h
            obtain ⟨outcome, -, houtcome⟩ := value_bind_eq_ok h
            exact absurd (Except.ok.inj houtcome) nofun
    | suggestSelectors selector =>
        obtain ⟨found, -, hfound⟩ := value_bind_eq_ok h
        exact absurd (Except.ok.inj hfound) nofun
    | elementText selector =>
        obtain ⟨hfind, rfl⟩ := withElement_eq_error_iff.mp h
        exact .unmatched (.inl rfl) hfind
    | elementAttributes selector attributes =>
        obtain ⟨hfind, rfl⟩ := withElement_eq_error_iff.mp h
        exact .unmatched (.inr ⟨attributes, rfl⟩) hfind
  · rintro (hblank | ⟨rfl | ⟨attributes, rfl⟩, hfind⟩)
    · rw [answer, stepFor_of_blank hblank]
      rfl
    · exact withElement_eq_error_iff.mpr ⟨hfind, rfl⟩
    · exact withElement_eq_error_iff.mpr ⟨hfind, rfl⟩

/-- Why a call is refused: there is no tool of its name, its arguments tell none of the calls of
the tool, or the tool cannot answer. -/
inductive Refused (page : Page σ η) (s : σ) (name : Text) (entries : Entries) : Error → Prop where
  | unknown (hname : ∀ tool : Tool, tool.name ≠ name) :
      Refused page s name entries (.unknownTool name)
  | untold {tool : Tool} {mismatch : Mismatch} (hname : tool.name = name)
      (hread : readAs tool.title (Call.read tool) (.map entries) = .error mismatch) :
      Refused page s name entries (.badArguments tool mismatch)
  | failed {requested : Call} {error : Error} (hname : requested.tool.name = name)
      (htold : requested.IsTold entries) (hfails : requested.Fails page s error) :
      Refused page s name entries error

theorem map_of_isNothing (entries : Entries) :
    (if isNothing (.map entries) then .map [] else .map entries) = Datum.map entries := by
  cases entries <;> rfl

theorem call_of_mismatch {mismatch : Mismatch} (hname : tool.name = name)
    (hread : readAs tool.title (Call.read tool) (.map entries) = .error mismatch) :
    (call page name (.map entries) s).value = .ok (.error (.badArguments tool mismatch)) := by
  rw [call, Tool.ofName?_eq_some_iff.mpr hname, map_of_isNothing]
  dsimp only
  rw [hread]
  rfl

theorem call_of_read (hname : tool.name = name)
    (hread : readAs tool.title (Call.read tool) (.map entries) = .ok requested) :
    (call page name (.map entries) s).value = (answer page requested s).value := by
  rw [call, Tool.ofName?_eq_some_iff.mpr hname, map_of_isNothing]
  dsimp only
  rw [hread]
  rfl

theorem readAs_eq_ok_iff :
    readAs tool.title (Call.read tool) (.map entries) = .ok requested ↔
      requested.tool = tool ∧ requested.IsTold entries := by
  rw [← Call.read_eq_valid_iff, readAs]
  cases Call.read tool (.map entries) <;> simp

theorem call_eq_error_iff :
    (call page name (.map entries) s).value = .ok (.error error) ↔
      Refused page s name entries error := by
  constructor
  · intro h
    cases hname : Tool.ofName? name with
    | none =>
        rw [call, hname] at h
        obtain rfl := Except.error.inj (Except.ok.inj h)
        refine .unknown fun tool htool => ?_
        exact absurd (hname.symm.trans (Tool.ofName?_eq_some_iff.mpr htool)) nofun
    | some tool =>
        have htool := Tool.ofName?_eq_some_iff.mp hname
        cases hread : readAs tool.title (Call.read tool) (.map entries) with
        | error mismatch =>
            rw [call_of_mismatch htool hread] at h
            obtain rfl := Except.error.inj (Except.ok.inj h)
            exact .untold htool hread
        | ok requested =>
            rw [call_of_read htool hread] at h
            obtain ⟨rfl, htold⟩ := readAs_eq_ok_iff.mp hread
            exact .failed htool htold (answer_eq_error_iff.mp h)
  · rintro (hname | ⟨htool, hread⟩ | ⟨htool, htold, hfails⟩)
    · have hnone : Tool.ofName? name = none := by
        cases hfound : Tool.ofName? name with
        | none => rfl
        | some tool => exact absurd (Tool.ofName?_eq_some_iff.mp hfound) (hname tool)
      rw [call, hnone]
      rfl
    · exact call_of_mismatch htool hread
    · rw [call_of_read htool (readAs_eq_ok_iff.mpr ⟨rfl, htold⟩)]
      exact answer_eq_error_iff.mpr hfails

/-- On a page that is looked at without faults, every call ends with an answer or with one of four
errors, and each error has one cause.  Three are what the host is told to expect; the fourth is
that of a step, where the selector to be checked is blank. -/
theorem call_ends
    (hreads : Page.ReadsRelated
      (fun {_} routine (_ : Routine σ _) => routine.Faults I fun _ => False) page page)
    (hs : I s) (name : Text) (entries : Entries) :
    ∃ ended, (call page name (.map entries) s).value = .ok ended ∧
      ((∃ unknown, ended = .error (.unknownTool unknown)) ↔ ∀ tool : Tool, tool.name ≠ name) ∧
      ((∃ tool mismatch, ended = .error (.badArguments tool mismatch)) ↔
        ∃ tool : Tool, tool.name = name ∧
          ∀ requested : Call, requested.tool = tool → ¬ requested.IsTold entries) ∧
      (∀ selector, ended = .error (.noElement selector) ↔
        ∃ requested : Call, requested.tool.name = name ∧ requested.IsTold entries ∧
          requested.Reads selector ∧ (page.find selector s).value = .ok none) ∧
      ((∃ mismatch, ended = .error (.badTarget mismatch)) ↔
        ∃ selector context action, Tool.validateSelector.name = name ∧
          (Call.validateSelector selector context action).IsTold entries ∧
          Text.isBlankText selector = true) := by
  obtain ⟨ended, hended⟩ :=
    (related_call (faults_isCongruence I _) hreads name (.map entries)).exists_value hs
  have hrefused (error : Error) : ended = .error error ↔ Refused page s name entries error := by
    rw [← call_eq_error_iff, hended, Except.ok.injEq]
  refine ⟨ended, hended, ?_⟩
  simp only [hrefused]
  refine ⟨⟨?_, fun h => ⟨name, .unknown h⟩⟩, ⟨?_, ?_⟩, fun selector => ⟨?_, ?_⟩, ⟨?_, ?_⟩⟩
  · rintro ⟨unknown, hname | _ | ⟨-, -, ⟨⟩⟩⟩
    exact hname
  · rintro ⟨tool, mismatch, _ | ⟨hname, hread⟩ | ⟨-, -, ⟨⟩⟩⟩
    refine ⟨tool, hname, fun requested htool htold => ?_⟩
    exact absurd (hread.symm.trans (readAs_eq_ok_iff.mpr ⟨htool, htold⟩)) nofun
  · rintro ⟨tool, hname, huntold⟩
    cases hread : readAs tool.title (Call.read tool) (.map entries) with
    | error mismatch => exact ⟨tool, mismatch, .untold hname hread⟩
    | ok requested =>
        obtain ⟨htool, htold⟩ := readAs_eq_ok_iff.mp hread
        exact absurd htold (huntold requested htool)
  · rintro (_ | _ | ⟨hname, htold, _ | ⟨hreads, hfind⟩⟩)
    exact ⟨_, hname, htold, hreads, hfind⟩
  · rintro ⟨requested, hname, htold, hreads, hfind⟩
    exact .failed hname htold (.unmatched hreads hfind)
  · rintro ⟨mismatch, _ | _ | ⟨hname, htold, hblank⟩⟩
    cases hblank with
    | blank hblank => exact ⟨_, _, _, hname, htold, hblank⟩
  · rintro ⟨selector, context, action, hname, htold, hblank⟩
    have hrequested : (Call.validateSelector selector context action).tool.name = name := hname
    exact ⟨blankSelector, .failed hrequested htold (.blank hblank)⟩

open Scripted (Script)

/-- On a page without elements, a tool that reads one does not find it. -/
theorem call_elementText_ends :
    ∃ ended, (call Script.page "get_element_text" (.map [("selector", .text "#a")]) {}).value =
        .ok ended ∧ ended = .error (.noElement "#a") := by
  obtain ⟨ended, hended, -, -, hunmatched, -⟩ :=
    call_ends (Script.page_quiet {} rfl rfl rfl) rfl "get_element_text" [("selector", .text "#a")]
  refine ⟨ended, hended, (hunmatched "#a").mpr ⟨.elementText "#a", rfl, ?_, .inl rfl, rfl⟩⟩
  exact ⟨.text "#a", rfl, .text "#a"⟩

/-- On the same page, which is looked at without faults, the check of a blank selector ends with
the error of a step. -/
theorem call_blankSelector_escapes :
    Page.ReadsRelated (fun {_} routine (_ : Routine Script _) =>
        routine.Faults (· = {}) fun _ => False) Script.page Script.page ∧
      (call Script.page "validate_selector" (.map [("selector", .text " ")]) {}).value =
        .ok (.error (.badTarget blankSelector)) := by
  refine ⟨Script.page_quiet {} rfl rfl rfl, ?_⟩
  decide +kernel

end Toolbox

end PageScript
