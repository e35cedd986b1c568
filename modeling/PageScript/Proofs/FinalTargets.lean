import Mathlib.Data.List.TakeWhile
import PageScript.Proofs.ResolvedSteps
import PageScript.Proofs.StepwiseValidation
import PageScript.Suite.Artifact

namespace PageScript

theorem Text.mem_trim_of_mem {s : Text} {c : CodePoint} (hc : c ∈ s)
    (hblank : Text.isBlank c = false) : c ∈ Text.trim s := by
  have hdrop : ∀ t : Text, c ∈ t → c ∈ t.dropWhile Text.isBlank := by
    intro t ht
    rw [← List.takeWhile_append_dropWhile (p := Text.isBlank) (l := t), List.mem_append] at ht
    rcases ht with ht | ht
    · have hp := List.mem_takeWhile_imp ht
      exact absurd hp (by simp [hblank])
    · exact ht
  have hstart := hdrop s hc
  exact List.mem_reverse.mpr (hdrop _ (List.mem_reverse.mpr hstart))

theorem Step.targetDigits?_eq_none {step : Step} (htarget : .char '=' ∈ step.target) :
    step.targetDigits? = none := by
  have hmem := Text.mem_trim_of_mem htarget (by decide)
  have hall : (Text.trim step.target).all Text.isDecimal = false := by
    rw [List.all_eq_false]
    exact ⟨_, hmem, by decide⟩
  simp [Step.targetDigits?, hall]

namespace Resolution

open Routine

variable {σ η : Type} {page : Page σ η} {s : σ}

theorem mem_selector_of_mem_forOther {tier : Tier} (htier : tier ∈ Tier.forOther) (value : Text) :
    .char '=' ∈ tier.selector value := by
  have hattribute : ∀ name : Text, .char '=' ∈ Selector.ofAttribute name value := by
    intro name
    simp [Selector.ofAttribute, Text.ofString]
  simp only [Tier.forOther, List.mem_cons, List.not_mem_nil, or_false] at htier
  rcases htier with rfl | rfl | rfl
  · exact hattribute "data-testid"
  · exact hattribute "aria-label"
  · simp [Tier.selector, Selector.ofRole, Text.ofString]

theorem exists_of_offer {tier : Tier} (htext : tier ≠ .text) {read? : Option Text} {selector : Text}
    (hoffer : tier.offer read? = some selector) : ∃ value, selector = tier.selector value := by
  cases tier with
  | text => exact absurd rfl htext
  | testId | id | ariaLabel | role =>
      obtain ⟨value, -, hselector⟩ := Option.map_eq_some_iff.mp hoffer
      exact ⟨value, hselector.symm⟩

/-- What the final target of a step can be. -/
def IsFinalTarget (step : Step) (target : Text) : Prop :=
  target = step.target ∨ step.seeksElement = true ∧
    ∃ tier ∈ Tier.forAction step.action, tier ≠ .text → ∃ value, target = tier.selector value

/-- The target of a step is kept, or an element that the step seeks offers another. -/
theorem resolve_finalTarget {step : Step} {index : Int} {found : Outcome}
    (hvalue : (resolve page step index s).value = .ok found) :
    IsFinalTarget step found.finalTarget := by
  cases arises_of_value_resolve hvalue with
  | skipped | failed | missing | stable => exact .inl rfl
  | @settled element found? hseeks _ _ hfirst =>
      rcases settle_cases step index found? with ⟨_, _, hkept⟩ | ⟨tier, selector, rfl, himproved⟩
      · rw [hkept]
        exact .inl rfl
      · obtain ⟨hmem, read?, hoffer⟩ := exists_offer_of_firstCandidate hfirst
        rw [himproved]
        exact .inr ⟨hseeks, tier, hmem, fun htext => exists_of_offer htext hoffer⟩

theorem targetDigits?_of_wait {step : Step} {tier : Tier} {target : Text}
    (hwait : step.action = .wait) (htier : tier ∈ Tier.forAction step.action)
    (hselector : tier ≠ .text → ∃ value, target = tier.selector value) :
    Step.targetDigits? { step with target } = none := by
  rw [hwait] at htier
  have htext : tier ≠ .text := by
    rintro rfl
    exact absurd htier (by decide)
  obtain ⟨value, rfl⟩ := hselector htext
  exact Step.targetDigits?_eq_none (mem_selector_of_mem_forOther htier value)

theorem excessDigits?_of_isFinalTarget {step : Step} {target : Text}
    (htarget : IsFinalTarget step target) (hstep : Suite.excessDigits? step = none) :
    Suite.excessDigits? { step with target } = none := by
  rcases htarget with rfl | ⟨hseeks, tier, htier, hselector⟩
  · exact hstep
  · unfold Suite.excessDigits?
    split_ifs with hwait
    · rw [targetDigits?_of_wait (by simpa using hwait) htier hselector]
      rfl
    · rfl

theorem seeksElement_of_isFinalTarget {step : Step} {target : Text}
    (htarget : IsFinalTarget step target) (hseeks : step.seeksElement = true) :
    Step.seeksElement { step with target } = true := by
  rcases htarget with rfl | ⟨-, tier, htier, hselector⟩
  · exact hseeks
  · by_cases hwait : step.action = .wait
    · have hdigits := targetDigits?_of_wait hwait htier hselector
      rw [hwait] at hdigits
      simp [Step.seeksElement, hwait, hdigits]
    · unfold Step.seeksElement at hseeks ⊢
      cases haction : step.action with
      | goto => exact absurd hseeks (by simp [haction])
      | wait => exact absurd haction hwait
      | fill | click | expect | type | select | hover => rfl

end Resolution

end PageScript
