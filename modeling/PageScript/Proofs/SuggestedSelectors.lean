import PageScript.Proofs.CoherentOutcomes
import PageScript.Proofs.ReadOnlyTools
/-!
Selectors that are suggested.  The tiers of an element are read to the end where its selectors
are listed, and up to the first that offers one where a step is resolved or a selector is
checked.  Both begin in the same way, so the first suggestion is what the other two come to.
-/

namespace PageScript

open Routine

variable {σ η : Type} {I : σ → Prop} {page : Page σ η} {element : η} {s : σ}

theorem Routine.Faults.exists_value {α : Type} {routine : Routine σ α}
    (h : routine.Faults I fun _ => False) (hs : I s) : ∃ a, (routine s).value = .ok a := by
  cases hvalue : (routine s).value with
  | ok a => exact ⟨a, rfl⟩
  | error fault => exact (h.fault s hs fault hvalue).elim

namespace Resolution

variable {tiers : List Tier} {found : List Text} {selector : Text} {action : Action}

theorem firstCandidate_of_candidates (h : (candidates page element tiers s).value = .ok found) :
    ∃ found?, (firstCandidate page element tiers s).value = .ok found? ∧
      found?.map Prod.snd = found.head? := by
  induction tiers generalizing s found with
  | nil =>
      obtain rfl : [] = found := Except.ok.inj h
      exact ⟨none, rfl, rfl⟩
  | cons tier tiers ih =>
      obtain ⟨candidate?, hcandidate, hrest⟩ := value_bind_eq_ok h
      obtain ⟨more, hmore, hfound⟩ := value_bind_eq_ok hrest
      obtain rfl : candidate?.toList ++ more = found := Except.ok.inj hfound
      rw [firstCandidate, bind_of_ok hcandidate]
      cases candidate? with
      | some selector => exact ⟨some (tier, selector), rfl, rfl⟩
      | none => exact ih hmore

/-- Each tier adds one candidate at most, of the kind that the tier stands for. -/
theorem kinds_candidates (hid : Tier.id ∉ tiers)
    (h : (candidates page element tiers s).value = .ok found) :
    (found.map Selector.kind).Sublist (tiers.filterMap fun tier => tier.strategy.kind?) := by
  induction tiers generalizing s found with
  | nil =>
      obtain rfl : [] = found := Except.ok.inj h
      exact .slnil
  | cons tier tiers ih =>
      obtain ⟨hne, hid⟩ := List.ne_and_not_mem_of_not_mem_cons hid
      obtain ⟨candidate?, hcandidate, hrest⟩ := value_bind_eq_ok h
      obtain ⟨more, hmore, hfound⟩ := value_bind_eq_ok hrest
      obtain rfl : candidate?.toList ++ more = found := Except.ok.inj hfound
      cases candidate? with
      | none => exact (ih hid hmore).trans (.filterMap _ (List.sublist_cons_self tier tiers))
      | some selector =>
          rw [candidate_eq] at hcandidate
          obtain ⟨read?, -, hoffer⟩ := value_bind_eq_ok hcandidate
          have hkind := Tier.kind_offer hne.symm (Except.ok.inj hoffer)
          have hkinds : (tier :: tiers).filterMap (fun tier => tier.strategy.kind?) =
              Selector.kind selector :: tiers.filterMap fun tier => tier.strategy.kind? :=
            List.filterMap_cons_some hkind
          rw [hkinds]
          exact (ih hid hmore).cons_cons _

/-- What every step on a selector is resolved to, and what the tool that checks the selector
answers: the same improved selector, or none and the selector as it is. -/
structure SettlesOn (page : Page σ η) (s : σ) (selector : Text) (action : Action)
    (improved? : Option Text) (strategy : Strategy) (warning? : Option Text) : Prop where
  resolved : ∀ step index, step.action = action → step.target = selector →
    (resolve page step index s).value =
      .ok ⟨index, true, selector, improved?.getD selector, strategy, warning?⟩
  checked : ∀ context, (Toolbox.answer page (.validateSelector selector context action) s).value =
    .ok (.ok (.check true strategy improved? warning?))

theorem stepFor_of_not_blank (hblank : Text.isBlankText selector = false)
    (context : Toolbox.Context) (action : Action) :
    Toolbox.stepFor selector context action =
      .ok ⟨action, selector, none, context.label ++ " via tool call"⟩ := by
  have hread : Step.readTarget (.text selector) = .valid selector := by
    simp only [Step.readTarget, Record.Reader.text, hblank, Bool.false_eq_true, if_false]
  rw [Toolbox.stepFor, hread]

/-- The tool checks a selector by resolving a step on it. -/
theorem settlesOn_of_resolved {improved? : Option Text} {strategy : Strategy}
    {warning? : Option Text} (hblank : Text.isBlankText selector = false)
    (himproved : improved? ≠ some selector) (hwarning : warning? ≠ some [])
    (hresolved : ∀ step index, step.action = action → step.target = selector →
      (resolve page step index s).value =
        .ok ⟨index, true, selector, improved?.getD selector, strategy, warning?⟩) :
    SettlesOn page s selector action improved? strategy warning? := by
  refine ⟨hresolved, fun context => ?_⟩
  have hnotice : Text.nonempty? warning? = warning? := by
    cases warning? with
    | none => rfl
    | some warning =>
        exact Text.nonempty?_eq_some_iff.mpr ⟨rfl, fun h => hwarning (congrArg some h)⟩
  have hfinal : (if improved?.getD selector = selector then none
      else some (improved?.getD selector)) = improved? := by
    cases improved? with
    | none => exact if_pos rfl
    | some improved => exact if_neg fun h => himproved (congrArg some h)
  have hvalue := hresolved ⟨action, selector, none, context.label ++ " via tool call"⟩ 0 rfl rfl
  simp only [Toolbox.answer, stepFor_of_not_blank hblank, bind_of_ok hvalue, Toolbox.checkOf,
    Outcome.notice?, hnotice, hfinal]
  rfl

theorem forAction_eq_forClick (haction : action = .click ∨ action = .hover) :
    Tier.forAction action = Tier.forClick := by
  rcases haction with rfl | rfl <;> rfl

theorem settlesOn_of_candidates (hblank : Text.isBlankText selector = false)
    (hfragile : Selector.isStable selector = false)
    (hfind : (page.find selector s).value = .ok (some element))
    (hfound : (candidates page element Tier.forClick (page.find selector s).state).value =
      .ok found) (haction : action = .click ∨ action = .hover) :
    (∀ best rest, found = best :: rest → ∃ strategy,
      strategy.kind? = some (Selector.kind best) ∧
        SettlesOn page s selector action (some best) strategy none) ∧
      (found = [] → SettlesOn page s selector action none .cssFallback (some noAlternative)) := by
  obtain ⟨found?, hfirst, hhead⟩ := firstCandidate_of_candidates hfound
  have hsettled : ∀ (step : Step) (index : Int), step.action = action → step.target = selector →
      (resolve page step index s).value = .ok (settle step index found?) := by
    rintro step index rfl rfl
    have hseeks : step.seeksElement = true := by
      rcases haction with h | h <;> simp only [Step.seeksElement, h]
    rw [← forAction_eq_forClick haction] at hfirst
    exact (Arises.settled hseeks hfind hfragile hfirst).value_resolve
  constructor
  · rintro best rest rfl
    obtain ⟨⟨tier, best⟩, rfl, rfl⟩ := Option.map_eq_some_iff.mp hhead
    obtain ⟨htier, read?, hoffer⟩ := exists_offer_of_firstCandidate hfirst
    have hid : tier ≠ .id := by
      rintro rfl
      exact absurd htier (by decide)
    have hchanged : best ≠ selector := by
      rintro rfl
      exact Bool.false_ne_true (hfragile.symm.trans ((Tier.isStable_offer_iff hoffer).mpr hid))
    refine ⟨tier.strategy, Tier.kind_offer hid hoffer,
      settlesOn_of_resolved hblank (fun h => hchanged (Option.some.inj h)) (Option.some_ne_none _).symm
        ?_⟩
    rintro step index haction rfl
    rw [hsettled step index haction rfl, settle_some_of_ne hid]
    rfl
  · rintro rfl
    obtain rfl := Option.map_eq_none_iff.mp hhead
    refine settlesOn_of_resolved hblank (Option.some_ne_none _).symm (by decide) ?_
    rintro step index haction rfl
    exact hsettled step index haction rfl

/-- On a page whose queries and reads raise nothing, take a selector that is neither blank nor
stable and that matches an element.  The first of the suggestions for it is what steps that
click or hover are resolved to, and what the check of the selector improves it to; with no
suggestion, both leave the selector as it is.  All suggestions are stable, and they come in the
order of the tiers, at most one for each. -/
theorem suggest_agrees (hreads : Page.ReadsRelated (fun {_} routine (_ : Routine σ _) =>
      routine.Faults I fun _ => False) page page) (hs : I s)
    (hblank : Text.isBlankText selector = false) (hfragile : Selector.isStable selector = false)
    (hfind : (page.find selector s).value = .ok (some element)) :
    ∃ found, (suggest page selector s).value = .ok found ∧
      (Toolbox.answer page (.suggestSelectors selector) s).value =
        .ok (.ok (.suggestions selector found)) ∧
      (∀ action, action = .click ∨ action = .hover →
        (∀ best rest, found = best :: rest → ∃ strategy,
          strategy.kind? = some (Selector.kind best) ∧
            SettlesOn page s selector action (some best) strategy none) ∧
        (found = [] → SettlesOn page s selector action none .cssFallback (some noAlternative))) ∧
      (∀ suggestion ∈ found, Selector.isStable suggestion = true) ∧
      (found.map Selector.kind).Sublist [.testId, .ariaLabel, .role, .text] := by
  obtain ⟨found, hsuggest⟩ := (related_suggest (faults_isCongruence I _) hreads
    selector).exists_value hs
  have hfound : (candidates page element Tier.forClick (page.find selector s).state).value =
      .ok found := by
    rw [← hsuggest, suggest, bind_of_ok hfind]
  have hkinds : (found.map Selector.kind).Sublist [.testId, .ariaLabel, .role, .text] :=
    kinds_candidates (by decide) hfound
  refine ⟨found, hsuggest, ?_, fun action =>
    settlesOn_of_candidates hblank hfragile hfind hfound, fun suggestion hmem => ?_, hkinds⟩
  · rw [Toolbox.answer, bind_of_ok (congrArg Done.value (orElse_of_ok hsuggest))]
    rfl
  · have hstable : ∀ kind ∈ [Selector.Kind.testId, .ariaLabel, .role, .text],
        kind.isStable = true := by decide
    exact hstable _ (hkinds.subset (List.mem_map_of_mem hmem))

end Resolution

namespace Scripted

theorem Script.page_quiet (script : Script) (hqueries : script.queryFaults = [])
    (hattributes : script.attributeFaults = []) (htext : script.textFault? = none) :
    Page.ReadsRelated (fun {_} routine (_ : Routine Script _) =>
      routine.Faults (· = script) fun _ => False) Script.page Script.page where
  find selector := by
    refine ⟨fun _ hs => hs, ?_⟩
    rintro s rfl fault hfault
    change s.find selector = _ at hfault
    rw [Script.find, hqueries] at hfault
    cases hfault
  attributeOf element name := by
    refine ⟨fun _ hs => hs, ?_⟩
    rintro s rfl fault hfault
    change s.attributeOf element name = _ at hfault
    rw [Script.attributeOf, hattributes] at hfault
    cases hfault
  textOf element := by
    refine ⟨fun _ hs => hs, ?_⟩
    rintro s rfl fault hfault
    change s.textOf element = _ at hfault
    rw [Script.textOf, htext] at hfault
    cases hfault

end Scripted

namespace Resolution

open Scripted (Script)

/-- A page with a button that has a role and a text, and a link that has nothing. -/
def toolbarScript : Script where
  elements := [(".go", ⟨[("data-testid", some " "), ("role", some "button")], some " Go\nnow "⟩),
    (".top", ⟨[], none⟩)]

theorem suggest_toolbarScript_agrees :
    ((suggest Script.page ".go" toolbarScript).value = .ok ["role=button", "text=Go now"] ∧
      SettlesOn Script.page toolbarScript ".go" .hover (some "role=button") .role none) ∧
    (suggest Script.page ".top" toolbarScript).value = .ok [] ∧
      SettlesOn Script.page toolbarScript ".top" .click none .cssFallback (some noAlternative) := by
  have hreads := Script.page_quiet toolbarScript rfl rfl rfl
  constructor
  · have hvalue : (suggest Script.page ".go" toolbarScript).value =
        .ok ["role=button", "text=Go now"] := by decide +kernel
    have hblank : Text.isBlankText ".go" = false := by decide
    obtain ⟨found, hfound, -, hsettles, -⟩ := suggest_agrees hreads rfl hblank
      (by decide +kernel) rfl
    obtain rfl := Except.ok.inj (hfound.symm.trans hvalue)
    obtain ⟨strategy, hkind, hsettles⟩ := (hsettles .hover (.inr rfl)).1 _ _ rfl
    have hrole : Selector.kind "role=button" = .role := by decide +kernel
    rw [hrole] at hkind
    obtain rfl : strategy = .role := by
      cases strategy <;> first | rfl | exact absurd hkind (by decide)
    exact ⟨hvalue, hsettles⟩
  · have hvalue : (suggest Script.page ".top" toolbarScript).value = .ok [] := by decide +kernel
    have hblank : Text.isBlankText ".top" = false := by decide
    obtain ⟨found, hfound, -, hsettles, -⟩ := suggest_agrees hreads rfl hblank
      (by decide +kernel) rfl
    obtain rfl := Except.ok.inj (hfound.symm.trans hvalue)
    exact ⟨hvalue, (hsettles .click (.inl rfl)).2 rfl⟩

end Resolution

end PageScript
