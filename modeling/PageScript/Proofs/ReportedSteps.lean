import PageScript.Proofs.EscapingFailures
import PageScript.Proofs.StepFindings

namespace PageScript

open Routine

variable {σ η ω : Type} {I : σ → Prop} {p : Fault → Prop} {W : Text → Prop}

/-- A finding that is finished: a step that lacks data has a remark, too. -/
structure Outcome.IsVerdict (W : Text → Prop) (index : Int) (step : Step) (outcome : Outcome) :
    Prop extends Outcome.IsFinding W index step outcome where
  lacking : step.lacksData = true → ∃ remark, outcome.warning? = some remark ∧ W remark

/-- Outcomes of steps, the first of which has the place `first`. -/
inductive Outcome.AreVerdicts (W : Text → Prop) : Nat → List Step → List Outcome → Prop where
  | nil (first : Nat) : AreVerdicts W first [] []
  | cons {first : Nat} {step : Step} {steps : List Step} {outcome : Outcome}
      {outcomes : List Outcome} (hfirst : outcome.IsVerdict W first step)
      (hrest : AreVerdicts W (first + 1) steps outcomes) :
      AreVerdicts W first (step :: steps) (outcome :: outcomes)

namespace Outcome.AreVerdicts

variable {first : Nat} {steps : List Step} {outcomes : List Outcome}

theorem length_eq (h : AreVerdicts W first steps outcomes) : outcomes.length = steps.length := by
  induction h with
  | nil first => rfl
  | cons hfirst hrest ih => rw [List.length_cons, List.length_cons, ih]

theorem verdict (h : AreVerdicts W first steps outcomes) {i : Nat} {step : Step}
    (hstep : steps[i]? = some step) :
    ∃ outcome, outcomes[i]? = some outcome ∧ outcome.IsVerdict W (first + i : Nat) step := by
  induction h generalizing i with
  | nil first => exact nomatch hstep
  | cons hfirst hrest ih =>
      cases i with
      | zero =>
          obtain rfl := Option.some.inj hstep
          exact ⟨_, rfl, hfirst⟩
      | succ i =>
          obtain ⟨outcome, houtcome, hverdict⟩ := ih hstep
          rw [Nat.add_assoc, Nat.add_comm 1 i] at hverdict
          exact ⟨outcome, houtcome, hverdict⟩

end Outcome.AreVerdicts

namespace Validation

variable {resolver : Resolver σ η} {page : Page σ η}

section

variable (hW : ∀ remark, remark ≠ [] → W remark)
  (hsummary : ∀ failure, p (.failure failure) → W failure.summary)

include hW

theorem gives_replay (hperform : ∀ interaction, (page.perform interaction).Faults I p)
    {step : Step} {index : Int} {found : Outcome} (hfound : found.IsFinding W index step) :
    (replay page step found).Gives I (Outcome.IsVerdict W index step) := by
  unfold replay
  split
  · rename_i hlacks
    -- The note is a remark also where nothing was remarked before.
    have hnote : missingDataNote step ≠ [] := by simp [missingDataNote, Text.ofString]
    obtain ⟨remark, hremark, hremark'⟩ := found.warning_addNote hnote
    exact .pure ⟨hfound.addNote hW hnote, fun _ => ⟨remark, hremark, hW remark hremark'⟩⟩
  · rename_i hlacks
    split
    · refine (faults_perform hperform step).gives.bind fun problem? _ => ?_
      cases problem? with
      | none => exact .pure ⟨hfound, fun h => absurd h hlacks⟩
      | some problem =>
          have hnote : ("interaction failed: " : Text) ++ problem ≠ [] := by simp [Text.ofString]
          exact .pure ⟨hfound.addNote hW hnote, fun h => absurd h hlacks⟩
    · exact .pure ⟨hfound, fun h => absurd h hlacks⟩

include hsummary

variable (hfinding : ∀ step index, (resolver page step index).Gives I (Outcome.IsFinding W index step))
  (hresolver : ∀ step index, (resolver page step index).Faults I p)
  (hperform : ∀ interaction, (page.perform interaction).Faults I p)

include hfinding hresolver hperform

/-- A resolver that fails leaves the target of the step, with a remark. -/
theorem gives_validateStep (index : Nat) (step : Step) :
    (validateStep resolver page index step).Gives I (Outcome.IsVerdict W index step) := by
  refine ((hfinding step index).outcome (hresolver step index)).bind fun ended hended => ?_
  cases ended with
  | ok found => exact gives_replay hW hperform hended
  | error failure =>
      have hremark : W failure.summary := hsummary failure hended
      exact .logged ⟨Outcome.isFinding_unresolved step index _ hremark,
        fun _ => ⟨failure.summary, rfl, hremark⟩⟩ _ _

theorem gives_validateSteps (first : Nat) (steps : List Step) :
    (validateSteps resolver page first steps).Gives I (Outcome.AreVerdicts W first steps) := by
  induction steps generalizing first with
  | nil => exact .pure (.nil first)
  | cons step steps ih =>
      refine (gives_validateStep hW hsummary hfinding hresolver hperform first step).bind
        fun outcome houtcome => ?_
      exact (ih (first + 1)).bind fun more hmore => .pure (.cons houtcome hmore)

theorem areVerdicts_of_validateOn (hvisit : ∀ url, (page.visit url).Faults I p) {s : σ} (hs : I s)
    {scenario : Scenario} {url : Text} {outcomes : List Outcome}
    (hvalue : (validateOn resolver page scenario url s).value = .ok (.ok outcomes)) :
    Outcome.AreVerdicts W 0 scenario.steps outcomes := by
  obtain ⟨ended, hended, hrest⟩ := value_bind_eq_ok hvalue
  have hvisited := (hvisit url).outcome.keeps s hs
  cases ended with
  | error failure => exact nomatch Except.ok.inj hrest
  | ok value =>
      obtain ⟨found, hfound, hsame⟩ := value_bind_eq_ok hrest
      obtain rfl := Except.ok.inj (Except.ok.inj hsame)
      have hsteps := gives_validateSteps hW hsummary hfinding hresolver hperform 0 scenario.steps
      exact hsteps.value _ hvisited found hfound

end

end Validation

def Fault.IsNamed (fault : Fault) : Prop := ∀ failure, fault = .failure failure → failure.kind ≠ ""

structure Outcome.Describes (index : Nat) (step : Step) (outcome : Outcome) : Prop where
  stepIndex : outcome.stepIndex = index
  originalTarget : outcome.originalTarget = step.target
  notBlank : Text.isBlankText step.target = false → Text.isBlankText outcome.finalTarget = false
  unresolved : outcome.resolved = false → outcome.finalTarget = step.target ∧
    ∃ remark, outcome.warning? = some remark ∧ remark ≠ ""
  lacking : step.lacksData = true → ∃ remark, outcome.warning? = some remark ∧ remark ≠ ""

/-- The scenario of the report is the draft with the final targets of its steps. -/
structure Report.Describes (draft : Scenario) (report : Report) : Prop where
  apartFromSteps : { report.scenario with steps := draft.steps } = draft
  stepCount : report.scenario.steps.length = draft.steps.length
  outcomeCount : report.outcomes.length = draft.steps.length
  step : ∀ (i : Nat) step, draft.steps[i]? = some step → ∃ outcome,
    report.outcomes[i]? = some outcome ∧
    report.scenario.steps[i]? = some { step with target := outcome.finalTarget } ∧
    outcome.Describes i step

theorem Outcome.IsVerdict.describes {index : Nat} {step : Step} {outcome : Outcome}
    (h : outcome.IsVerdict (· ≠ "") index step) : outcome.Describes index step where
  stepIndex := h.stepIndex
  originalTarget := h.originalTarget
  notBlank htarget := by
    rcases h.finalTarget with hkept | ⟨-, hfound⟩
    · rwa [hkept]
    · exact hfound
  unresolved hresolved := by
    refine ⟨?_, h.warning hresolved⟩
    rcases h.finalTarget with hkept | ⟨hfound, -⟩
    · exact hkept
    · exact absurd (hresolved.symm.trans hfound) nofun
  lacking := h.lacking

theorem Outcome.AreVerdicts.describes {draft : Scenario} {outcomes : List Outcome}
    (h : Outcome.AreVerdicts (· ≠ "") 0 draft.steps outcomes) :
    Report.Describes draft ⟨Validation.withFinalTargets draft outcomes, outcomes⟩ where
  apartFromSteps := rfl
  stepCount := by simp [Validation.withFinalTargets, h.length_eq]
  outcomeCount := h.length_eq
  step i step hstep := by
    obtain ⟨outcome, houtcome, hverdict⟩ := h.verdict hstep
    rw [Nat.zero_add] at hverdict
    refine ⟨outcome, houtcome, ?_, hverdict.describes⟩
    simp [Validation.withFinalTargets, List.getElem?_zipWith, hstep, houtcome]

theorem Failure.summary_ne_empty {failure : Failure} (h : failure.kind ≠ "") :
    failure.summary ≠ "" := by
  unfold Failure.summary
  split
  · exact h
  · assumption

namespace Validation

variable {resolver : Resolver σ η} {openPage : Routine σ (Page σ η)} {scenario : Scenario}
  {url : Text} {s : σ}

/-- In the states of `I`, failures of the page have names.  The resolver may fail for any
step, also with a name, and is the standard one where it does not. -/
structure NamesFailures (I : σ → Prop) (resolver : Resolver σ η) (openPage : Routine σ (Page σ η)) :
    Prop where
  opening : ∀ s, I s → I (openPage s).state
  page : ∀ s page, I s → (openPage s).value = .ok page → page.FaultsIn I Fault.IsNamed
  resolving : ∀ s page, I s → (openPage s).value = .ok page → ∀ step index t, I t →
    resolver page step index t = standardResolver page step index t ∨
      I (resolver page step index t).state ∧
        ∃ failure, (resolver page step index t).value = .error (.failure failure) ∧
          failure.kind ≠ ""

/-- Nothing that validation calls changes what `view` shows of the state. -/
structure Spares (view : σ → ω) (resolver : Resolver σ η) (openPage : Routine σ (Page σ η)) :
    Prop where
  opening : openPage.Keeps view
  page : ∀ s page, (openPage s).value = .ok page →
    Page.Related (fun {_} routine (_ : Routine σ _) => routine.Keeps view) page page
  resolving : ∀ s page, (openPage s).value = .ok page →
    ∀ step index, (resolver page step index).Keeps view
  closing : ∀ s page, (openPage s).value = .ok page → page.close.Keeps view

theorem NamesFailures.faults (h : NamesFailures I resolver openPage) (hs : I s) {page : Page σ η}
    (hopened : (openPage s).value = .ok page) (step : Step) (index : Nat) :
    (resolver page step index).Faults I Fault.IsNamed := by
  have hstandard := related_standardResolver (faults_isCongruence I Fault.IsNamed)
    (h.page s page hs hopened).toReadsRelated step index
  -- Where the resolver is not the standard one, it has failed with a name.
  constructor
  · intro t ht
    rcases h.resolving s page hs hopened step index t ht with heq | ⟨hkeeps, -⟩
    · rw [heq]
      exact hstandard.keeps t ht
    · exact hkeeps
  · intro t ht fault hfault
    rcases h.resolving s page hs hopened step index t ht with heq | ⟨-, failure, hvalue, hkind⟩
    · rw [heq] at hfault
      exact hstandard.fault t ht fault hfault
    · rw [hvalue] at hfault
      rintro found rfl
      obtain rfl := Fault.failure.inj (Except.error.inj hfault)
      exact hkind

theorem NamesFailures.finding (h : NamesFailures I resolver openPage) (hs : I s) {page : Page σ η}
    (hopened : (openPage s).value = .ok page) (step : Step) (index : Nat) :
    (resolver page step index).Gives I (Outcome.IsFinding (· ≠ "") index step) := by
  have hstandard : (standardResolver page step index).Gives I
      (Outcome.IsFinding (· ≠ "") index step) :=
    Resolution.gives_resolve (h.page s page hs hopened).toReadsRelated step index (fun _ => id)
      fun failure hnamed => Failure.summary_ne_empty (hnamed failure rfl)
  refine ⟨(h.faults hs hopened step index).keeps, fun t ht found hfound => ?_⟩
  rcases h.resolving s page hs hopened step index t ht with heq | ⟨-, failure, hvalue, -⟩
  · rw [heq] at hfound
    exact hstandard.value t ht found hfound
  · rw [hvalue] at hfound
    exact nomatch hfound

theorem Spares.keeps_validate {view : σ → ω} (h : Spares view resolver openPage) :
    (validate resolver openPage scenario url).Keeps view := by
  intro s
  have hopening := h.opening s
  cases hopened : (openPage s).value with
  | error fault =>
      rw [(validate_of_notOpened hopened).2]
      exact hopening
  | ok page =>
      have hon : (validateOn resolver page scenario url).Keeps view :=
        @related_validateOn σ σ η _ page page resolver resolver (h.resolving s page hopened)
          (keeps_isCongruence view) (h.page s page hopened) scenario url
      rw [(validate_of_opened hopened).2]
      exact (h.closing s page hopened _).trans ((hon _).trans hopening)

theorem describes_of_validate (hnames : NamesFailures I resolver openPage) (hs : I s)
    {report : Report} (hreport : (validate resolver openPage scenario url s).value = .ok (.ok report)) :
    report.Describes scenario := by
  obtain ⟨page, outcomes, hopened, hon, -, rfl⟩ := value_validate_eq_report_iff.mp hreport
  have hpage := hnames.page s page hs hopened
  have hverdicts : Outcome.AreVerdicts (· ≠ "") 0 scenario.steps outcomes :=
    areVerdicts_of_validateOn (fun _ => id)
      (fun failure hnamed => Failure.summary_ne_empty (hnamed failure rfl))
      (hnames.finding hs hopened) (hnames.faults hs hopened) hpage.perform hpage.visit
      (hnames.opening s hs) hon
  exact hverdicts.describes

/-- A report has one outcome for each step of the draft, in order, and its scenario is the
draft with the final targets.  What is not resolved or lacks data has a remark.  The draft
itself is left as it was by all that leaves it alone otherwise. -/
theorem validate_describes_draft (hnames : NamesFailures I resolver openPage) (hs : I s)
    {report : Report} (hreport : (validate resolver openPage scenario url s).value = .ok (.ok report)) :
    report.Describes scenario ∧
      ∀ (ω : Type) (view : σ → ω), Spares view resolver openPage →
        view (validate resolver openPage scenario url s).state = view s :=
  ⟨describes_of_validate hnames hs hreport, fun _ _ hspares => hspares.keeps_validate s⟩

def falteringResolver : Resolver σ η := fun page step index =>
  if index = 0 then Routine.fail ⟨"ValueError", ""⟩ else standardResolver page step index

def lackingScenario : Scenario :=
  ⟨"s-1", "lacking", none, [⟨.click, "#a", none, ""⟩, ⟨.fill, "#b", none, ""⟩], []⟩

theorem namesFailures_falteringResolver {I : σ → Prop} {page : Page σ η}
    (hpage : page.FaultsIn I Fault.IsNamed) : NamesFailures I falteringResolver (pure page) := by
  constructor
  · exact fun _ => id
  · rintro s page - hopened
    obtain rfl := Except.ok.inj hopened
    exact hpage
  · rintro s page - hopened step index t ht
    by_cases hindex : index = 0
    · subst hindex
      exact .inr ⟨ht, _, rfl, by decide⟩
    · exact .inl (by rw [falteringResolver, if_neg hindex])

theorem keeps_falteringResolver {view : σ → ω} {page : Page σ η}
    (hpage : Page.ReadsRelated (fun {_} routine (_ : Routine σ _) => routine.Keeps view) page page)
    (step : Step) (index : Nat) : (falteringResolver page step index).Keeps view := by
  unfold falteringResolver
  split
  · exact fun _ => rfl
  · exact related_standardResolver (keeps_isCongruence view) hpage step index

theorem faults_of_failure {α : Type} {routine : Routine σ α} {failure : Failure}
    (hvalue : ∀ s, (routine s).value = .error (.failure failure)) (hkind : failure.kind ≠ "") :
    routine.Faults (fun _ => True) Fault.IsNamed := by
  refine ⟨fun _ _ => trivial, ?_⟩
  rintro s - fault hfault other rfl
  obtain rfl := Fault.failure.inj (Except.error.inj ((hvalue s).symm.trans hfault))
  exact hkind

theorem namesFailures_lostPage :
    NamesFailures (fun _ => True) falteringResolver (pure (lostPage (.ok ()))) :=
  namesFailures_falteringResolver {
    find := fun _ => faults_of_failure (fun _ => rfl) (by decide)
    attributeOf := fun _ _ => .pure none
    textOf := fun _ => .pure none
    visit := fun _ => .pure ()
    perform := fun _ => .pure () }

/-- A page that finds nothing, in a state that holds a draft beside what it was asked for. -/
def searchedPage : Page (Scenario × List Text) Unit where
  visit url := fun s => ⟨.ok (), (s.1, s.2 ++ [url]), []⟩
  find selector := fun s =>
    ⟨.error (.failure ⟨"TimeoutError", ""⟩), (s.1, s.2 ++ [selector]), []⟩
  attributeOf _ _ := pure none
  textOf _ := pure none
  perform _ := pure ()
  close := pure ()

theorem namesFailures_searchedPage :
    NamesFailures (fun _ => True) falteringResolver (pure searchedPage) :=
  namesFailures_falteringResolver {
    find := fun _ => faults_of_failure (fun _ => rfl) (by decide)
    attributeOf := fun _ _ => .pure none
    textOf := fun _ => .pure none
    visit := fun _ => ⟨fun _ _ => trivial, fun _ _ _ => nofun⟩
    perform := fun _ => .pure () }

theorem spares_searchedPage : Spares Prod.fst falteringResolver (pure searchedPage) := by
  have hpage : Page.Related (fun {_} routine (_ : Routine _ _) => routine.Keeps Prod.fst)
      searchedPage searchedPage := {
    find := fun _ _ => rfl
    attributeOf := fun _ _ _ => rfl
    textOf := fun _ _ => rfl
    visit := fun _ _ => rfl
    perform := fun _ _ => rfl }
  constructor
  · exact fun _ => rfl
  · rintro s page hopened
    obtain rfl := Except.ok.inj hopened
    exact hpage
  · rintro s page hopened
    obtain rfl := Except.ok.inj hopened
    exact keeps_falteringResolver hpage.toReadsRelated
  · rintro s page hopened
    obtain rfl := Except.ok.inj hopened
    exact fun _ => rfl

def lackingOutcomes : List Outcome :=
  [⟨0, false, "#a", "#a", .unchanged, some "ValueError"⟩,
   ⟨1, false, "#b", "#b", .unchanged, some "TimeoutError; missing data for 'fill' step"⟩]

theorem validate_lackingScenario_describes :
    let ended := validate falteringResolver (pure searchedPage) lackingScenario "/"
      (lackingScenario, [])
    NamesFailures (fun _ => True) falteringResolver (pure searchedPage) ∧
      ended.value = .ok (.ok ⟨lackingScenario, lackingOutcomes⟩) ∧
      Report.Describes lackingScenario ⟨lackingScenario, lackingOutcomes⟩ ∧
      Spares Prod.fst falteringResolver (pure searchedPage) ∧
      ended.state.1 = lackingScenario ∧ ended.state.2 = (["/", "#b"] : List Text) := by
  intro ended
  have hreport : ended.value = .ok (.ok ⟨lackingScenario, lackingOutcomes⟩) := rfl
  obtain ⟨hdescribes, hkept⟩ :=
    validate_describes_draft namesFailures_searchedPage trivial hreport
  exact ⟨namesFailures_searchedPage, hreport, hdescribes, spares_searchedPage,
    hkept Scenario Prod.fst spares_searchedPage, rfl⟩

end Validation

end PageScript
