import PageScript.Proofs.ValidationFold
/-!
What validation does to a page: it looks at elements, which changes nothing that
the page shows, and does the interactions that are due, each in its turn.
-/

namespace PageScript

open Scripted (Event)

variable {σ η ω : Type}

namespace Routine

/-- The routine changes nothing of what `view` shows of the state. -/
def Keeps (view : σ → ω) {α : Type} (routine : Routine σ α) : Prop :=
  ∀ s, view (routine s).state = view s

theorem keeps_isCongruence (view : σ → ω) :
    IsCongruence (fun {_} routine (_ : Routine σ _) => Keeps view routine) where
  done a s := rfl
  log level message s := rfl
  bind := by
    intro α β first _ next _ hfirst hnext s
    exact state_bind (I := fun t => view t = view s) (hfirst s) fun a _ =>
      (hnext a (first s).state).trans (hfirst s)
  outcome := by
    intro α routine _ hroutine s
    rw [outcome_state]
    exact hroutine s

theorem calm_isCongruence (I : σ → Prop) :
    IsCongruence (fun {_} routine (_ : Routine σ _) => Calm I routine) where
  done a := Calm.pure a
  log := Calm.log
  bind hfirst hnext := hfirst.bind fun _ a _ _ => hnext a
  outcome hroutine := hroutine.outcome

end Routine

/-- Looking at the elements of a page changes nothing of what `view` shows. -/
abbrev Page.ReadsKeep (view : σ → ω) (page : Page σ η) : Prop :=
  Page.ReadsRelated (fun {_} routine (_ : Routine σ _) => routine.Keeps view) page page

/-- In the states of `I`, the page is not interrupted, and stays in them. -/
abbrev Page.CalmIn (I : σ → Prop) (page : Page σ η) : Prop :=
  Page.Related (fun {_} routine (_ : Routine σ _) => routine.Calm I) page page

namespace Validation

open Routine

/-- Interactions done one after another, each where `view` shows what the ones
before it have left; they may fail. -/
inductive Replays (page : Page σ η) (view : σ → ω) : List Interaction → ω → ω → Prop where
  | nil (a : ω) : Replays page view [] a a
  | cons {interaction : Interaction} {rest : List Interaction} {s : σ} {a b : ω}
      (hshown : view s = a)
      (hrest : Replays page view rest (view (page.perform interaction s).state) b) :
      Replays page view (interaction :: rest) a b

theorem dueInteractions_cons (step : Step) (steps : List Step) (outcome : Outcome)
    (outcomes : List Outcome) :
    dueInteractions (step :: steps) (outcome :: outcomes) =
      (dueInteraction? step outcome).toList ++ dueInteractions steps outcomes := by
  cases hdue : dueInteraction? step outcome <;> simp [dueInteractions, hdue]

/-- Between two steps, the page shows what the due interactions have left. -/
theorem replays_foldlM {page : Page σ η} {view : σ → ω} (hreads : page.ReadsKeep view)
    {steps : List Step} {before after : Progress σ} {more : List Outcome}
    (hsteps : steps.foldlM (Progress.advance page) before = .ok after)
    (hmore : after.outcomes = before.outcomes ++ more) :
    Replays page view (dueInteractions steps more) (view before.state) (view after.state) := by
  induction steps generalizing before more with
  | nil =>
      obtain rfl := Except.ok.inj hsteps
      exact .nil _
  | cons step steps ih =>
      rw [List.foldlM_cons] at hsteps
      obtain ⟨middle, hfirst, hrest⟩ := bind_eq_ok hsteps
      obtain ⟨outcome, hfinish, hone⟩ := Progress.advance_eq_ok hfirst
      obtain ⟨found, looked, hfound, -, hstate⟩ := finishStep_eq_ok hfinish
      obtain ⟨later, hlater, -⟩ := Progress.foldlM_advance_outcomes hrest
      obtain rfl : more = outcome :: later := by
        rw [hlater, hone, List.append_assoc] at hmore
        exact (List.append_cancel_left hmore).symm
      -- Between the interactions the page is only looked at, which `view` does not show.
      have hlooked : view looked = view before.state := by
        have hkeeps := Resolution.related_resolve (keeps_isCongruence view) hreads step
          before.outcomes.length before.state
        rwa [(Done.result_eq_ok_iff.mp hfound).2] at hkeeps
      have hreplay := ih hrest hlater
      rw [dueInteractions_cons]
      cases hdue : dueInteraction? step outcome with
      | none =>
          rw [hdue] at hstate
          rw [hstate] at hreplay
          rw [← hlooked]
          exact hreplay
      | some interaction =>
          rw [hdue] at hstate
          rw [hstate] at hreplay
          exact .cons hlooked hreplay

theorem finishFound_of_calm {I : σ → Prop} {page : Page σ η} (hpage : page.CalmIn I) (step : Step)
    (found : Outcome) {looked : σ} (hlooked : I looked) :
    ∃ ended, finishFound page step found looked = .ok ended ∧ I ended.2 := by
  unfold finishFound
  split
  · exact ⟨_, rfl, hlooked⟩
  · rename_i interaction hdue
    have hperform := hpage.perform interaction
    have hacted := hperform.keeps looked hlooked
    cases hdone : (page.perform interaction looked).result with
    | ok ended =>
        rw [(Done.result_eq_ok_iff.mp hdone).2] at hacted
        exact ⟨_, rfl, hacted⟩
    | error stopped =>
        obtain ⟨hvalue, hstate⟩ := Done.result_eq_error_iff.mp hdone
        rw [hstate] at hacted
        rcases stopped with ⟨failure | message, acted⟩
        · exact ⟨_, rfl, hacted⟩
        · exact absurd hvalue (hperform.notInterrupted looked hlooked message)

theorem calm_standardResolver {I : σ → Prop} {page : Page σ η} (hpage : page.CalmIn I) (step : Step)
    (index : Nat) : (standardResolver page step index).Calm I :=
  Resolution.related_resolve (calm_isCongruence I) hpage.toReadsRelated step index

theorem finishStep_of_calm {I : σ → Prop} {page : Page σ η} (hpage : page.CalmIn I) (index : Nat)
    (step : Step) {s : σ} (hs : I s) :
    ∃ ended, finishStep page index step s = .ok ended ∧ I ended.2 := by
  have hcalm : Calm I (Resolution.resolve page step index) := calm_standardResolver hpage step index
  rcases value_cases (Resolution.resolve page step index s).value with
    ⟨found, h⟩ | ⟨failure, h⟩ | ⟨message, h⟩
  · have hresult := Done.result_eq_ok_iff.mpr ⟨h, rfl⟩
    obtain ⟨ended, hfinish, hended⟩ := finishFound_of_calm hpage step found (hcalm.keeps s hs)
    refine ⟨ended, ?_, hended⟩
    rw [finishStep, hresult]
    exact hfinish
  · exact absurd h (resolve_value_ne_failure page step index s failure)
  · exact absurd h (hcalm.notInterrupted s hs message)

theorem foldlM_of_calm {I : σ → Prop} {page : Page σ η} (hpage : page.CalmIn I)
    (steps : List Step) {before : Progress σ} (hbefore : I before.state) :
    ∃ after, steps.foldlM (Progress.advance page) before = .ok after ∧ I after.state := by
  induction steps generalizing before with
  | nil => exact ⟨before, rfl, hbefore⟩
  | cons step steps ih =>
      obtain ⟨ended, hfinish, hended⟩ :=
        finishStep_of_calm hpage before.outcomes.length step hbefore
      have hmiddle : I (⟨before.outcomes ++ [ended.1], ended.2⟩ : Progress σ).state := hended
      obtain ⟨after, hrest, hafter⟩ := ih hmiddle
      refine ⟨after, ?_, hafter⟩
      rw [List.foldlM_cons, Progress.advance, hfinish]
      exact hrest

/-- A page that is not interrupted brings all steps to their end. -/
theorem run_of_calm {I : σ → Prop} {page : Page σ η} (hpage : page.CalmIn I) (steps : List Step)
    {start : σ} (hstart : I start) :
    ∃ progress, Progress.run page start steps = .ok progress ∧ I progress.state :=
  foldlM_of_calm hpage steps hstart

end Validation

end PageScript
