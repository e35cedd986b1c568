import PageScript.Proofs.FinalTargets
import PageScript.Proofs.RoutineFaults

namespace PageScript

variable {σ η : Type} {I : σ → Prop} {p : Fault → Prop}

namespace Routine

variable {α β : Type} {q : α → Prop} {r : β → Prop} {routine : Routine σ α}

/-- In the states of `I`, the routine leads to none that is not in `I`, and the values
that it ends with satisfy `q`. -/
structure Gives (I : σ → Prop) (q : α → Prop) (routine : Routine σ α) : Prop where
  keeps : ∀ s, I s → I (routine s).state
  value : ∀ s, I s → ∀ a, (routine s).value = .ok a → q a

theorem Gives.pure {a : α} (ha : q a) : Gives I q (pure a) where
  keeps _ hs := hs
  value _ _ _ h := Except.ok.inj h ▸ ha

theorem Gives.bind {first : Routine σ α} {next : α → Routine σ β} (hfirst : Gives I q first)
    (hnext : ∀ a, q a → Gives I r (next a)) : Gives I r (first >>= next) := by
  constructor
  · intro s hs
    have hmiddle := hfirst.keeps s hs
    exact state_bind hmiddle fun a ha => (hnext a (hfirst.value s hs a ha)).keeps _ hmiddle
  · intro s hs b hb
    obtain ⟨a, ha, hrest⟩ := value_bind_eq_ok hb
    exact (hnext a (hfirst.value s hs a ha)).value _ (hfirst.keeps s hs) b hrest

theorem Gives.logged {a : α} (ha : q a) (level : LogLevel) (message : Text) :
    Gives I q (log level message >>= fun _ => Pure.pure a) where
  keeps _ hs := hs
  value _ _ _ h := Except.ok.inj h ▸ ha

theorem Faults.gives (h : Faults I p routine) : Gives I (fun _ => True) routine where
  keeps := h.keeps
  value _ _ _ _ := trivial

/-- How a routine may end whose values satisfy `q` and whose faults satisfy `p`. -/
def EndsWith (q : α → Prop) (p : Fault → Prop) : Except Failure α → Prop
  | .ok a => q a
  | .error failure => p (.failure failure)

theorem Gives.outcome (h : Gives I q routine) (hfaults : Faults I p routine) :
    Gives I (EndsWith q p) routine.outcome := by
  constructor
  · exact hfaults.outcome.keeps
  · intro s hs ended hended
    have hvalue := value_of_outcome_eq_ok hended
    cases ended with
    | ok a => exact h.value s hs a hvalue
    | error failure => exact hfaults.fault s hs _ hvalue

end Routine

open Routine

theorem Text.isBlankText_eq_false {s : Text} {c : CodePoint} (hc : c ∈ s)
    (hblank : isBlank c = false) : isBlankText s = false :=
  List.all_eq_false.mpr ⟨c, hc, by simp [hblank]⟩

/-- What resolving a step tells of it.  A target that is not resolved is kept, with a
remark that satisfies `W`. -/
structure Outcome.IsFinding (W : Text → Prop) (index : Int) (step : Step) (outcome : Outcome) :
    Prop where
  stepIndex : outcome.stepIndex = index
  originalTarget : outcome.originalTarget = step.target
  finalTarget : outcome.finalTarget = step.target ∨
    outcome.resolved = true ∧ Text.isBlankText outcome.finalTarget = false
  warning : outcome.resolved = false → ∃ remark, outcome.warning? = some remark ∧ W remark

namespace Outcome

variable {W : Text → Prop} {index : Int} {step : Step} {outcome : Outcome}

theorem warning_addNote (outcome : Outcome) {note : Text} (hnote : note ≠ []) :
    ∃ remark, (outcome.addNote note).warning? = some remark ∧ remark ≠ [] := by
  unfold addNote
  split
  · exact ⟨_, rfl, by simp [hnote]⟩
  · exact ⟨note, rfl, hnote⟩

theorem IsFinding.addNote (h : outcome.IsFinding W index step) (hW : ∀ remark, remark ≠ [] → W remark)
    {note : Text} (hnote : note ≠ []) : (outcome.addNote note).IsFinding W index step := by
  have hsame := outcome.sameFinding_addNote note
  obtain ⟨remark, hremark, hremark'⟩ := outcome.warning_addNote hnote
  constructor
  · rw [hsame.stepIndex, h.stepIndex]
  · rw [hsame.originalTarget, h.originalTarget]
  · rw [hsame.finalTarget, hsame.resolved]
    exact h.finalTarget
  · exact fun _ => ⟨remark, hremark, hW remark hremark'⟩

theorem isFinding_matched (step : Step) (index : Int) (strategy : Strategy)
    (warning? : Option Text) :
    (Resolution.kept step index true strategy warning?).IsFinding W index step where
  stepIndex := rfl
  originalTarget := rfl
  finalTarget := .inl rfl
  warning h := absurd h (by simp [Resolution.kept])

theorem isFinding_unresolved (step : Step) (index : Int) (strategy : Strategy) {remark : Text}
    (hremark : W remark) :
    (Resolution.kept step index false strategy (some remark)).IsFinding W index step where
  stepIndex := rfl
  originalTarget := rfl
  finalTarget := .inl rfl
  warning _ := ⟨remark, rfl, hremark⟩

theorem isFinding_improved (step : Step) (index : Int) (tier : Resolution.Tier) {selector : Text}
    (hselector : Text.isBlankText selector = false) :
    (Resolution.improved step index tier selector).IsFinding W index step where
  stepIndex := rfl
  originalTarget := rfl
  finalTarget := .inr ⟨rfl, hselector⟩
  warning h := absurd h (by simp [Resolution.improved])

end Outcome

namespace Resolution

variable {W : Text → Prop} {page : Page σ η} {s : σ}

theorem isBlankText_selector {tier : Tier} (htier : tier ≠ .text) (value : Text) :
    Text.isBlankText (tier.selector value) = false := by
  have hattribute : ∀ name, Text.isBlankText (Selector.ofAttribute name value) = false := fun name =>
    have hmem : .char '=' ∈ Selector.ofAttribute name value := by
      simp [Selector.ofAttribute, Text.ofString]
    Text.isBlankText_eq_false hmem (by decide)
  cases tier with
  | testId => exact hattribute "data-testid"
  | ariaLabel => exact hattribute "aria-label"
  | text => exact absurd rfl htier
  | role =>
      have hmem : .char '=' ∈ Selector.ofRole value := by simp [Selector.ofRole, Text.ofString]
      exact Text.isBlankText_eq_false hmem (by decide)
  | id =>
      change Text.isBlankText (Selector.ofId value) = false
      unfold Selector.ofId
      split
      · have hmem : .char '#' ∈ ("#" : Text) ++ value := by simp [Text.ofString]
        exact Text.isBlankText_eq_false hmem (by decide)
      · exact hattribute "id"

theorem isBlankText_ofText? {text? : Option Text} {selector : Text}
    (hselector : Selector.ofText? text? = some selector) : Text.isBlankText selector = false := by
  unfold Selector.ofText? at hselector
  dsimp only at hselector
  split at hselector
  · exact nomatch hselector
  · obtain rfl := Option.some.inj hselector
    have hmem : .char '=' ∈ ("text=" : Text) ++ Selector.oneLine text? := by simp [Text.ofString]
    exact Text.isBlankText_eq_false hmem (by decide)

theorem isBlankText_of_offer {tier : Tier} {read? : Option Text} {selector : Text}
    (hoffer : tier.offer read? = some selector) : Text.isBlankText selector = false := by
  by_cases htext : tier = .text
  · subst htext
    exact isBlankText_ofText? hoffer
  · obtain ⟨value, rfl⟩ := exists_of_offer htext hoffer
    exact isBlankText_selector htext value

/-- A step is resolved, or there is a remark, if only the summary of a failure. -/
theorem gives_resolve (hpage : Page.ReadsRelated (fun {_} routine (_ : Routine σ _) =>
      routine.Faults I p) page page) (step : Step) (index : Int)
    (hW : ∀ remark, remark ≠ [] → W remark)
    (hsummary : ∀ failure, p (.failure failure) → W failure.summary) :
    (resolve page step index).Gives I (Outcome.IsFinding W index step) := by
  have hfaults := related_resolveElement (faults_isCongruence I p) hpage step index
  constructor
  · exact (related_resolve (faults_isCongruence I p) hpage step index).keeps
  · intro s hs outcome hvalue
    cases arises_of_value_resolve hvalue with
    | skipped | stable => exact Outcome.isFinding_matched step index _ _
    | failed _ hfault =>
        exact Outcome.isFinding_unresolved step index _ (hsummary _ (hfaults.fault s hs _ hfault))
    | missing => exact Outcome.isFinding_unresolved step index _ (hW notFound (by decide))
    | @settled element found? _ _ _ hfirst =>
        rcases settle_cases step index found? with ⟨_, _, hkept⟩ | ⟨tier, selector, rfl, himproved⟩
        · rw [hkept]
          exact Outcome.isFinding_matched step index _ _
        · obtain ⟨-, read?, hoffer⟩ := exists_offer_of_firstCandidate hfirst
          rw [himproved]
          exact Outcome.isFinding_improved step index tier (isBlankText_of_offer hoffer)

end Resolution

end PageScript
