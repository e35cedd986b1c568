import PageScript.Proofs.CandidateLocators
import PageScript.Proofs.FirstMatches
import PageScript.Proofs.IdSelectors
import PageScript.Proofs.ReportedSteps

namespace PageScript

open Routine

variable {σ η : Type}

/-- A failure that has a name, as a page reports it. -/
def Fault.IsNamedFailure (fault : Fault) : Prop :=
  ∃ failure, fault = .failure failure ∧ failure.kind ≠ ""

namespace Strategy

/-- The kind of the selectors that a strategy stands for, if there is one. -/
def kind? : Strategy → Option Selector.Kind
  | .testId => some .testId
  | .ariaLabel => some .ariaLabel
  | .role => some .role
  | .text => some .text
  | .unchanged | .cssFallback => none

theorem isStable_of_kind? {strategy : Strategy} {kind : Selector.Kind}
    (h : strategy.kind? = some kind) : kind.isStable = true := by
  cases strategy with
  | unchanged | cssFallback => exact absurd h nofun
  | testId | ariaLabel | role | text =>
      obtain rfl := Option.some.inj h
      rfl

end Strategy

namespace Resolution

variable {page : Page σ η} {step : Step} {index : Int} {element : η} {s : σ} {outcome : Outcome}

/-- Whatever an element has for a tier other than that of the id, the selector that is offered
for it is of the kind that the tier stands for. -/
theorem Tier.kind_offer {tier : Tier} {read? : Option Text} {selector : Text} (htier : tier ≠ .id)
    (hoffer : tier.offer read? = some selector) :
    tier.strategy.kind? = some (Selector.kind selector) := by
  cases tier with
  | id => exact absurd rfl htier
  | text =>
      have htrimmed : Text.IsTrimmed (Selector.oneLine read?) := Text.isTrimmed_collapse _
      rw [Selector.ofText?_eq_some hoffer, Suite.Locator.kind_textMark htrimmed]
      rfl
  | testId =>
      obtain ⟨value, -, rfl⟩ := Option.map_eq_some_iff.mp hoffer
      have hsmall : Selector.Kind.ofSmallName (Text.lower "data-testid") = .testId := by
        decide +kernel
      rw [Tier.selector, Selector.ofTestId, Selector.kind_ofAttribute Selector.isName_testId, hsmall]
      rfl
  | ariaLabel =>
      obtain ⟨value, -, rfl⟩ := Option.map_eq_some_iff.mp hoffer
      have hsmall : Selector.Kind.ofSmallName (Text.lower "aria-label") = .ariaLabel := by
        decide +kernel
      rw [Tier.selector, Selector.ofAriaLabel, Selector.kind_ofAttribute Selector.isName_ariaLabel,
        hsmall]
      rfl
  | role =>
      obtain ⟨value, -, rfl⟩ := Option.map_eq_some_iff.mp hoffer
      rw [Tier.selector, Selector.kind_of_roleMark (Selector.isPrefixOf_trim_ofRole value)]
      rfl

/-- Only the tier of the id offers a selector that hangs on the layout of the page. -/
theorem Tier.isStable_offer_iff {tier : Tier} {read? : Option Text} {selector : Text}
    (hoffer : tier.offer read? = some selector) :
    Selector.isStable selector = true ↔ tier ≠ .id := by
  constructor
  · rintro hstable rfl
    obtain ⟨value, -, rfl⟩ := Option.map_eq_some_iff.mp hoffer
    exact absurd (hstable.symm.trans (Selector.isStable_ofId value)) nofun
  · exact fun htier => Strategy.isStable_of_kind? (Tier.kind_offer htier hoffer)

/-- The element of a step is there, and none of its tiers offers a selector. -/
def OffersNothing (page : Page σ η) (step : Step) (s : σ) : Prop :=
  ∃ element t, (page.find step.target s).value = .ok (some element) ∧
    PassesOver page element (page.find step.target s).state (Tier.forAction step.action) t

/-- What the parts of an outcome say together. -/
structure IsCoherent (page : Page σ η) (step : Step) (index : Int) (s : σ) (outcome : Outcome) :
    Prop where
  stepIndex : outcome.stepIndex = index
  originalTarget : outcome.originalTarget = step.target
  unresolved : outcome.resolved = false → outcome.finalTarget = step.target ∧
    outcome.strategy = .unchanged ∧ ∃ warning, outcome.warning? = some warning ∧ warning ≠ ""
  unchanged : outcome.strategy = .unchanged → outcome.finalTarget = step.target
  tiered : ∀ kind, outcome.strategy.kind? = some kind → outcome.resolved = true ∧
    outcome.warning? = none ∧ outcome.finalTarget ≠ step.target ∧
    Selector.kind outcome.finalTarget = kind
  fallback : outcome.strategy = .cssFallback → outcome.resolved = true ∧
    (outcome.warning? ≠ none ↔ OffersNothing page step s ∧ outcome.finalTarget = step.target)

theorem isCoherent_matched :
    IsCoherent page step index s (kept step index true .unchanged none) where
  stepIndex := rfl
  originalTarget := rfl
  unresolved h := absurd h nofun
  unchanged _ := rfl
  tiered _ h := absurd h nofun
  fallback h := absurd h nofun

theorem isCoherent_unresolved {warning : Text} (hwarning : warning ≠ "") :
    IsCoherent page step index s (kept step index false .unchanged (some warning)) where
  stepIndex := rfl
  originalTarget := rfl
  unresolved _ := ⟨rfl, rfl, warning, rfl, hwarning⟩
  unchanged _ := rfl
  tiered _ h := absurd h nofun
  fallback h := absurd h nofun

theorem isCoherent_unimproved (hnothing : OffersNothing page step s) :
    IsCoherent page step index s (kept step index true .cssFallback (some noAlternative)) where
  stepIndex := rfl
  originalTarget := rfl
  unresolved h := absurd h nofun
  unchanged h := absurd h nofun
  tiered _ h := absurd h nofun
  fallback _ := ⟨rfl, fun _ => ⟨hnothing, rfl⟩, fun _ => nofun⟩

theorem isCoherent_improved_id {selector : Text} (hoffers : ¬ OffersNothing page step s) :
    IsCoherent page step index s (improved step index .id selector) where
  stepIndex := rfl
  originalTarget := rfl
  unresolved h := absurd h nofun
  unchanged h := absurd h nofun
  tiered _ h := absurd h nofun
  fallback _ := ⟨rfl, fun h => absurd rfl h, fun h => absurd h.1 hoffers⟩

theorem isCoherent_improved {tier : Tier} {read? : Option Text} {selector : Text}
    (htier : tier ≠ .id) (hoffer : tier.offer read? = some selector)
    (hfragile : Selector.isStable step.target = false) :
    IsCoherent page step index s (improved step index tier selector) := by
  have hkind := Tier.kind_offer htier hoffer
  have hchanged : selector ≠ step.target := by
    rintro rfl
    exact absurd (hfragile.symm.trans ((Tier.isStable_offer_iff hoffer).mpr htier)) nofun
  exact {
    stepIndex := rfl
    originalTarget := rfl
    unresolved := fun h => absurd h nofun
    unchanged := fun h => absurd (hkind.symm.trans (congrArg Strategy.kind? h)) nofun
    tiered := fun kind h => ⟨rfl, rfl, hchanged, Option.some.inj (hkind.symm.trans h)⟩
    fallback := fun h => absurd (hkind.symm.trans (congrArg Strategy.kind? h)) nofun }

theorem passesOver_iff {tiers : List Tier} :
    (∃ t, PassesOver page element s tiers t) ↔
      (firstCandidate page element tiers s).value = .ok none := by
  constructor
  · rintro ⟨t, hpassed⟩
    exact (IsFirstMatch.nothing hpassed).firstCandidate_eq.1
  · intro hvalue
    obtain ⟨read, ending, t, h⟩ := exists_isFirstMatch page element s tiers
    obtain rfl : ending = .ok none := h.firstCandidate_eq.1.symm.trans hvalue
    cases h with
    | nothing hpassed => exact ⟨t, hpassed⟩

theorem isCoherent_settle {found? : Option (Tier × Text)}
    (hfind : (page.find step.target s).value = .ok (some element))
    (hfragile : Selector.isStable step.target = false)
    (hfirst : (firstCandidate page element (Tier.forAction step.action)
      (page.find step.target s).state).value = .ok found?) :
    IsCoherent page step index s (settle step index found?) := by
  rcases found? with _ | ⟨tier, selector⟩
  · obtain ⟨t, hpassed⟩ := passesOver_iff.mpr hfirst
    exact isCoherent_unimproved ⟨element, t, hfind, hpassed⟩
  · -- The selector of the id may be the target itself, which is never stable either.
    by_cases htier : tier = .id
    · subst htier
      rw [settle]
      split
      · exact isCoherent_matched
      · refine isCoherent_improved_id ?_
        rintro ⟨found, t, hfound, hpassed⟩
        obtain rfl : element = found :=
          Option.some.inj (Except.ok.inj (hfind.symm.trans hfound))
        have hnone := passesOver_iff.mp ⟨t, hpassed⟩
        exact Option.some_ne_none _ (Except.ok.inj (hfirst.symm.trans hnone))
    · obtain ⟨-, read?, hoffer⟩ := exists_offer_of_firstCandidate hfirst
      rw [settle_some_of_ne htier]
      exact isCoherent_improved htier hoffer hfragile

theorem Arises.isCoherent (h : Arises page step index s outcome)
    (hnamed : ∀ failure, (resolveElement page step index s).value = .error (.failure failure) →
      failure.kind ≠ "") : IsCoherent page step index s outcome := by
  cases h with
  | skipped | stable => exact isCoherent_matched
  | failed _ hfault => exact isCoherent_unresolved (Failure.summary_ne_empty (hnamed _ hfault))
  | missing => exact isCoherent_unresolved (by decide)
  | settled _ hfind hfragile hfirst => exact isCoherent_settle hfind hfragile hfirst

theorem exists_value_resolve
    (hfailures : ∀ fault, (resolveElement page step index s).value = .error fault →
      fault.IsFailure) : ∃ outcome, (resolve page step index s).value = .ok outcome := by
  cases hseeks : step.seeksElement with
  | false => exact ⟨_, congrArg Done.value (resolve_of_not_seeks hseeks)⟩
  | true =>
      rw [(resolve_of_seeks hseeks).1]
      cases hvalue : (resolveElement page step index s).value with
      | ok outcome => exact ⟨outcome, rfl⟩
      | error fault =>
          obtain ⟨failure, rfl⟩ := hfailures fault hvalue
          exact ⟨_, rfl⟩

/-- On a page whose queries and reads end in values and in failures, every step has an outcome
that is coherent.  An address, and a number of milliseconds to wait, are not looked for at
all. -/
theorem resolve_coherent {I : σ → Prop}
    (hreads : Page.ReadsRelated (fun {_} routine (_ : Routine σ _) =>
      routine.Faults I Fault.IsNamedFailure) page page) (hs : I s) (step : Step) (index : Int) :
    (∃ outcome, (resolve page step index s).value = .ok outcome ∧
      IsCoherent page step index s outcome) ∧
    (step.action = .goto ∨ step.IsPause →
      (resolve page step index s).value = .ok (kept step index true .unchanged none) ∧
        callsMade page step index s = []) := by
  have hfaults := related_resolveElement (faults_isCongruence I Fault.IsNamedFailure) hreads
    step index
  constructor
  · obtain ⟨outcome, hvalue⟩ : ∃ outcome, (resolve page step index s).value = .ok outcome := by
      refine exists_value_resolve fun fault hfault => ?_
      obtain ⟨failure, rfl, -⟩ := hfaults.fault s hs fault hfault
      exact ⟨failure, rfl⟩
    refine ⟨outcome, hvalue, (arises_of_value_resolve hvalue).isCoherent fun failure hfailure => ?_⟩
    obtain ⟨found, hfound, hnamed⟩ := hfaults.fault s hs _ hfailure
    obtain rfl := Fault.failure.inj hfound
    exact hnamed
  · intro hunsought
    have hseeks := Step.seeksElement_eq_false_iff.mpr hunsought
    exact ⟨congrArg Done.value (resolve_of_not_seeks hseeks), callsMade_of_not_seeks hseeks⟩

theorem namedFailures_labellessScript :
    Page.ReadsRelated (fun {_} routine (_ : Routine Scripted.Script _) =>
      routine.Faults (· = labellessScript) Fault.IsNamedFailure)
      Scripted.Script.page Scripted.Script.page where
  find _ := by
    refine ⟨fun _ hs => hs, ?_⟩
    rintro s rfl fault hfault
    exact absurd hfault nofun
  textOf _ := by
    refine ⟨fun _ hs => hs, ?_⟩
    rintro s rfl fault hfault
    exact absurd hfault nofun
  attributeOf element name := by
    refine ⟨fun _ hs => hs, ?_⟩
    rintro s rfl fault hfault
    by_cases hname : name = "aria-label"
    · subst hname
      obtain rfl := Except.error.inj hfault
      exact ⟨_, rfl, by decide⟩
    · have hread : (Scripted.Script.page.attributeOf element name labellessScript).value =
          .ok (element.attributes.lookup name).join := by
        have hlookup : labellessScript.attributeFaults.lookup name = none := by
          rw [labellessScript, List.lookup_cons, beq_eq_false_iff_ne.mpr hname]
          rfl
        change labellessScript.attributeOf element name = _
        rw [Scripted.Script.attributeOf, hlookup]
        rfl
      exact absurd (hread.symm.trans hfault) nofun

def expectStep : Step := ⟨.expect, ".field", none, ""⟩

def pauseStep : Step := ⟨.wait, "500", none, ""⟩

def unreadOutcome : Outcome := ⟨0, false, ".field", ".field", .unchanged, some "label"⟩

/-- The label of the field cannot be read, and the pause asks the page for nothing. -/
theorem resolve_labellessScript_coherent :
    (resolve Scripted.Script.page expectStep 0 labellessScript).value = .ok unreadOutcome ∧
      IsCoherent Scripted.Script.page expectStep 0 labellessScript unreadOutcome ∧
      callsMade Scripted.Script.page pauseStep 1 labellessScript = [] := by
  have hunread : (resolve Scripted.Script.page expectStep 0 labellessScript).value =
      .ok unreadOutcome := by decide +kernel
  obtain ⟨outcome, hvalue, hcoherent⟩ :=
    (resolve_coherent namedFailures_labellessScript rfl expectStep 0).1
  obtain rfl : outcome = unreadOutcome := Except.ok.inj (hvalue.symm.trans hunread)
  have hpause := (resolve_coherent namedFailures_labellessScript rfl pauseStep 1).2
    (.inr ⟨rfl, by decide, by decide⟩)
  exact ⟨hvalue, hcoherent, hpause.2⟩

end Resolution

end PageScript
