import PageScript.Browser
import PageScript.Page.Scripted
import PageScript.Proofs.ReplayedPage
import PageScript.Proofs.RoutineFaults
import PageScript.Proofs.ValidationTrace
/-!
Failures that validation lets through.  Whatever fails while a page is opened and
used ends in a report or in a navigation error; only a failure to close the page goes
through.  The pages of a browser do not fail to close.
-/

namespace PageScript

open Routine

variable {σ ρ η : Type}

theorem Done.of_result_map {α β : Type} {ended : Done σ β} {other : Done σ α} {f : α → β}
    (h : ended.result = other.result.map fun found => (f found.1, found.2)) :
    ended.value = other.value.map f ∧ ended.state = other.state := by
  unfold Done.result at h
  cases hvalue : ended.value <;> cases hother : other.value <;>
    simp_all [Except.map]

namespace Validation

variable {resolver : Resolver σ η} {openPage : Routine σ (Page σ η)} {page : Page σ η}
  {scenario : Scenario} {url : Text} {s : σ}

/-- A page that was opened is closed last, and a fault of closing it outranks the rest. -/
theorem validate_of_opened (hopened : (openPage s).value = .ok page) :
    (validate resolver openPage scenario url s).value =
        (match (page.close
            (validateOn resolver page scenario url (openPage s).state).state).value with
        | .ok () => (validateOn resolver page scenario url (openPage s).state).value.map fun ended =>
            ended.map fun outcomes => ⟨withFinalTargets scenario outcomes, outcomes⟩
        | .error fault => .error fault) ∧
      (validate resolver openPage scenario url s).state =
        (page.close (validateOn resolver page scenario url (openPage s).state).state).state := by
  have hresult : (validate resolver openPage scenario url s).result = _ :=
    result_validate_of_opened (Done.result_eq_ok_iff.mpr ⟨hopened, rfl⟩)
  obtain ⟨hvalue, hstate⟩ := Done.of_result_map hresult
  rw [hvalue, hstate, finally_eq]
  refine ⟨?_, rfl⟩
  cases (page.close (validateOn resolver page scenario url (openPage s).state).state).value <;> rfl

theorem validate_of_notOpened {fault : Fault} (hopened : (openPage s).value = .error fault) :
    (validate resolver openPage scenario url s).value =
        (match fault with
        | .failure failure => .ok (.error (.noPage url failure))
        | .interrupt message => .error (.interrupt message)) ∧
      (validate resolver openPage scenario url s).state = (openPage s).state := by
  unfold validate
  cases fault with
  | failure failure =>
      simp only [bind_eq, andThen, log, outcome_of_failure hopened]
      exact ⟨rfl, rfl⟩
  | interrupt message =>
      simp only [bind_eq, andThen, log, outcome_of_interrupt hopened]
      exact ⟨trivial, trivial⟩

theorem value_validate_eq_report_iff {report : Report} :
    (validate resolver openPage scenario url s).value = .ok (.ok report) ↔
      ∃ page outcomes, (openPage s).value = .ok page ∧
        (validateOn resolver page scenario url (openPage s).state).value = .ok (.ok outcomes) ∧
        (page.close (validateOn resolver page scenario url (openPage s).state).state).value =
          .ok () ∧
        report = ⟨withFinalTargets scenario outcomes, outcomes⟩ := by
  constructor
  · intro hvalue
    cases hopened : (openPage s).value with
    | error fault =>
        rw [(validate_of_notOpened hopened).1] at hvalue
        cases fault <;> exact nomatch hvalue
    | ok page =>
        rw [(validate_of_opened hopened).1] at hvalue
        split at hvalue
        · rename_i hclosed
          rcases hon : (validateOn resolver page scenario url (openPage s).state).value with
            fault | error | outcomes
          · rw [hon] at hvalue
            exact nomatch hvalue
          · rw [hon] at hvalue
            exact nomatch Except.ok.inj hvalue
          · rw [hon] at hvalue
            exact ⟨page, outcomes, rfl, hon, hclosed, (Except.ok.inj (Except.ok.inj hvalue)).symm⟩
        · exact nomatch hvalue
  · rintro ⟨page, outcomes, hopened, hon, hclosed, rfl⟩
    rw [(validate_of_opened hopened).1, hclosed, hon]
    rfl

theorem validateOn_value_ne_failure (resolver : Resolver σ η) (page : Page σ η)
    (scenario : Scenario) (url : Text) (s : σ) (failure : Failure) :
    (validateOn resolver page scenario url s).value ≠ .error (.failure failure) := by
  intro hvalue
  have hon := faults_validateOn page.faultsIn_true (fun _ _ => faults_true (resolver page _ _))
    scenario url
  obtain ⟨-, hinterrupt⟩ := hon.fault s trivial _ hvalue
  exact Fault.not_isInterrupt_of_isFailure ⟨failure, rfl⟩ hinterrupt

theorem value_validate_eq_failure_iff {failure : Failure} :
    (validate resolver openPage scenario url s).value = .error (.failure failure) ↔
      ∃ page, (openPage s).value = .ok page ∧
        (page.close (validateOn resolver page scenario url (openPage s).state).state).value =
          .error (.failure failure) := by
  cases hopened : (openPage s).value with
  | error fault =>
      rw [(validate_of_notOpened hopened).1]
      cases fault <;> simp
  | ok page =>
      rw [(validate_of_opened hopened).1]
      constructor
      · intro hvalue
        refine ⟨page, rfl, ?_⟩
        split at hvalue
        · cases hon : (validateOn resolver page scenario url (openPage s).state).value with
          | ok ended =>
              rw [hon] at hvalue
              exact nomatch hvalue
          | error fault =>
              rw [hon] at hvalue
              obtain rfl := Except.error.inj hvalue
              exact absurd hon (validateOn_value_ne_failure resolver page scenario url _ failure)
        · rename_i fault hclosed
          rw [hclosed, Except.error.inj hvalue]
      · rintro ⟨found, hfound, hclosed⟩
        obtain rfl := Except.ok.inj hfound
        rw [hclosed]

/-- In the states of `I`, what validation calls may fail but is not interrupted. -/
structure OnlyFails (I : σ → Prop) (resolver : Resolver σ η) (openPage : Routine σ (Page σ η)) :
    Prop where
  opening : openPage.Calm I
  page : ∀ s page, I s → (openPage s).value = .ok page → page.CalmIn I
  resolving : ∀ s page, I s → (openPage s).value = .ok page →
    ∀ step index, (resolver page step index).Calm I
  closing : ∀ s page, I s → (openPage s).value = .ok page → page.close.Calm I

theorem Page.CalmIn.faultsIn {I : σ → Prop} {page : Page σ η} (h : page.CalmIn I) :
    page.FaultsIn I Fault.IsFailure where
  find selector := calm_iff_faults.mp (h.find selector)
  attributeOf element name := calm_iff_faults.mp (h.attributeOf element name)
  textOf element := calm_iff_faults.mp (h.textOf element)
  visit url := calm_iff_faults.mp (h.visit url)
  perform interaction := calm_iff_faults.mp (h.perform interaction)

theorem validateOn_of_calm {I : σ → Prop} (hpage : page.CalmIn I)
    (hresolver : ∀ step index, (resolver page step index).Calm I) (scenario : Scenario) (url : Text)
    {s : σ} (hs : I s) :
    ∃ ended, (validateOn resolver page scenario url s).value = .ok ended ∧
      I (validateOn resolver page scenario url s).state := by
  have hon := faults_validateOn (Page.CalmIn.faultsIn hpage)
    (fun step index => calm_iff_faults.mp (hresolver step index)) scenario url
  cases hvalue : (validateOn resolver page scenario url s).value with
  | ok ended => exact ⟨ended, rfl, hon.keeps s hs⟩
  | error fault =>
      obtain ⟨hfailure, hinterrupt⟩ := hon.fault s hs fault hvalue
      exact absurd hinterrupt (Fault.not_isInterrupt_of_isFailure hfailure)

theorem value_validate_ne_interrupt {I : σ → Prop} (honly : OnlyFails I resolver openPage)
    (hs : I s) (message : Text) :
    (validate resolver openPage scenario url s).value ≠ .error (.interrupt message) := by
  intro hvalue
  cases hopened : (openPage s).value with
  | error fault =>
      rw [(validate_of_notOpened hopened).1] at hvalue
      cases fault with
      | failure failure => exact nomatch hvalue
      | interrupt found => exact honly.opening.notInterrupted s hs found hopened
  | ok page =>
      obtain ⟨ended, hon, hstate⟩ := validateOn_of_calm (honly.page s page hs hopened)
        (honly.resolving s page hs hopened) scenario url (honly.opening.keeps s hs)
      rw [(validate_of_opened hopened).1, hon] at hvalue
      split at hvalue
      · exact nomatch hvalue
      · rename_i fault hclosed
        obtain rfl := Except.error.inj hvalue
        exact (honly.closing s page hs hopened).notInterrupted _ hstate message hclosed

/-- What leaves a validation.  A failure does only if closing the page fails with it;
where nothing is interrupted, all else is a report or a navigation error; and the
outcomes of steps that were all validated are lost only with the page that fails to
close. -/
theorem validate_fails_only_closing (resolver : Resolver σ η) (openPage : Routine σ (Page σ η))
    (scenario : Scenario) (url : Text) (s : σ) :
    (∀ failure, (validate resolver openPage scenario url s).value = .error (.failure failure) ↔
      ∃ page, (openPage s).value = .ok page ∧
        (page.close (validateOn resolver page scenario url (openPage s).state).state).value =
          .error (.failure failure)) ∧
    (∀ I, OnlyFails I resolver openPage → I s →
      (∃ report, (validate resolver openPage scenario url s).value = .ok (.ok report)) ∨
      (∃ error, (validate resolver openPage scenario url s).value = .ok (.error error)) ∨
      ∃ page failure, (openPage s).value = .ok page ∧
        (page.close (validateOn resolver page scenario url (openPage s).state).state).value =
          .error (.failure failure)) ∧
    ∀ page outcomes, (openPage s).value = .ok page →
      (validateOn resolver page scenario url (openPage s).state).value = .ok (.ok outcomes) →
      (page.close (validateOn resolver page scenario url (openPage s).state).state).value =
        .ok () →
      (validate resolver openPage scenario url s).value =
        .ok (.ok ⟨withFinalTargets scenario outcomes, outcomes⟩) := by
  refine ⟨fun failure => value_validate_eq_failure_iff, ?_, ?_⟩
  · intro I honly hs
    rcases value_cases (validate resolver openPage scenario url s).value with
      ⟨ended, hvalue⟩ | ⟨failure, hvalue⟩ | ⟨message, hvalue⟩
    · cases ended with
      | ok report => exact .inl ⟨report, hvalue⟩
      | error error => exact .inr (.inl ⟨error, hvalue⟩)
    · obtain ⟨page, hopened, hclosed⟩ := value_validate_eq_failure_iff.mp hvalue
      exact .inr (.inr ⟨page, failure, hopened, hclosed⟩)
    · exact absurd hvalue (value_validate_ne_interrupt honly hs message)
  · intro page outcomes hopened hon hclosed
    exact value_validate_eq_report_iff.mpr ⟨page, outcomes, hopened, hon, hclosed, rfl⟩

/-- A page on which nothing can be found, and which ends as given when it is closed. -/
def lostPage (ended : Except Fault Unit) : Page Nat Unit where
  visit _ := pure ()
  find _ := Routine.fail ⟨"TimeoutError", ""⟩
  attributeOf _ _ := pure none
  textOf _ := pure none
  perform _ := pure ()
  close := fun s => ⟨ended, s, []⟩

def lostScenario : Scenario := ⟨"s-1", "lost", none, [⟨.click, "#a", none, ""⟩], []⟩

theorem onlyFails_lostPage {ended : Except Fault Unit}
    (hended : ∀ message, ended ≠ .error (.interrupt message)) :
    OnlyFails (fun _ => True) standardResolver (pure (lostPage ended)) := by
  have hpage : (lostPage ended).CalmIn fun _ => True := {
    find := fun _ => ⟨fun _ _ => trivial, fun _ _ _ => nofun⟩
    attributeOf := fun _ _ => .pure none
    textOf := fun _ => .pure none
    visit := fun _ => .pure ()
    perform := fun _ => .pure () }
  refine ⟨.pure _, ?_, ?_, ?_⟩
  · rintro s page - hopened
    obtain rfl := Except.ok.inj hopened
    exact hpage
  · rintro s page - hopened
    obtain rfl := Except.ok.inj hopened
    exact calm_standardResolver hpage
  · rintro s page - hopened
    obtain rfl := Except.ok.inj hopened
    exact ⟨fun _ _ => trivial, fun _ _ message => hended message⟩

def lostOutcomes : List Outcome := [⟨0, false, "#a", "#a", .unchanged, some "TimeoutError"⟩]

theorem validateOn_lostPage (ended : Except Fault Unit) :
    (validateOn standardResolver (lostPage ended) lostScenario "/" 0).value =
      .ok (.ok lostOutcomes) :=
  rfl

/-- Every query fails, and yet there is a report. -/
theorem validate_lostPage_reports :
    OnlyFails (fun _ => True) standardResolver (pure (lostPage (.ok ()))) ∧
      (∃ report, (validate standardResolver (pure (lostPage (.ok ()))) lostScenario "/" 0).value =
        .ok (.ok report)) ∧
      (validate standardResolver (pure (lostPage (.ok ()))) lostScenario "/" 0).value =
        .ok (.ok ⟨lostScenario, lostOutcomes⟩) := by
  have honly : OnlyFails (fun _ => True) standardResolver (pure (lostPage (.ok ()))) :=
    onlyFails_lostPage fun _ => nofun
  obtain ⟨-, hends, hkept⟩ := validate_fails_only_closing standardResolver
    (pure (lostPage (.ok ()))) lostScenario "/" 0
  have hreport := hkept (lostPage (.ok ())) lostOutcomes rfl (validateOn_lostPage _) rfl
  refine ⟨honly, ?_, hreport⟩
  rcases hends _ honly trivial with hfound | ⟨error, herror⟩ | ⟨page, failure, hopened, hclosed⟩
  · exact hfound
  · exact nomatch hreport.symm.trans herror
  · obtain rfl := Except.ok.inj hopened
    exact nomatch hclosed

/-- The only step has been validated, and then closing the page fails. -/
theorem validate_lostPage_fails_closing :
    OnlyFails (fun _ => True) standardResolver
        (pure (lostPage (.error (.failure ⟨"RuntimeError", "boom"⟩)))) ∧
      (validateOn standardResolver (lostPage (.error (.failure ⟨"RuntimeError", "boom"⟩)))
        lostScenario "/" 0).value = .ok (.ok lostOutcomes) ∧
      (validate standardResolver (pure (lostPage (.error (.failure ⟨"RuntimeError", "boom"⟩))))
        lostScenario "/" 0).value = .error (.failure ⟨"RuntimeError", "boom"⟩) :=
  ⟨onlyFails_lostPage fun _ => nofun, validateOn_lostPage _, rfl⟩

end Validation

theorem Tab.close_page_ne_failure (tab : Tab σ η) (patience : Patience) (s : σ)
    (failure : Failure) : ((tab.page patience).close s).value ≠ .error (.failure failure) := by
  intro hvalue
  have hclose : ((tab.page patience).close).Faults (fun _ => True)
      fun fault => True ∧ fault.IsInterrupt := by
    refine (faults_true _).outcome.bind fun ended => ?_
    cases ended with
    | ok value => exact .pure value
    | error failure => exact .log _ _
  obtain ⟨-, hinterrupt⟩ := hclose.fault s trivial _ hvalue
  exact Fault.not_isInterrupt_of_isFailure ⟨failure, rfl⟩ hinterrupt

theorem Browser.exists_tab_of_openPage {engine : Engine σ ρ η} {settings : BrowserSettings}
    {browser : Browser σ ρ} {page : Page (Browser σ ρ) η}
    (hopened : (openPage engine settings browser).value = .ok page) :
    ∃ tab : Tab σ η, page = (tab.page (patience settings)).within Browser.engine putEngine := by
  unfold openPage at hopened
  obtain ⟨context, -, hcontext⟩ := value_bind_eq_ok hopened
  obtain ⟨tab, -, htab⟩ := value_bind_eq_ok hcontext
  obtain ⟨-, -, htimeout⟩ := value_bind_eq_ok htab
  obtain ⟨-, -, hpage⟩ := value_bind_eq_ok htimeout
  exact ⟨tab, (Except.ok.inj hpage).symm⟩

/-- No failure leaves a validation in a browser. -/
theorem Browser.validate_value_ne_failure (engine : Engine σ ρ η) (settings : BrowserSettings)
    (resolver : Validation.Resolver (Browser σ ρ) η) (scenario : Scenario) (url : Text)
    (browser : Browser σ ρ) (failure : Failure) :
    (Validation.validate resolver (openPage engine settings) scenario url browser).value ≠
      .error (.failure failure) := by
  intro hvalue
  obtain ⟨page, hopened, hclosed⟩ := Validation.value_validate_eq_failure_iff.mp hvalue
  obtain ⟨tab, rfl⟩ := exists_tab_of_openPage hopened
  exact tab.close_page_ne_failure _ _ failure hclosed

end PageScript
