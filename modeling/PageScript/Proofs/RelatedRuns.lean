import PageScript.Proofs.RelatedPages
import PageScript.Proofs.ValidatedScenarios

namespace PageScript

open Routine

variable {σ τ η : Type} {R : ∀ {α : Type}, Routine τ α → Routine σ α → Prop}

theorem Generation.related_generate (hR : IsCongruence R) {client? : Option (ModelClient σ)}
    {larger : ModelClient σ → ModelClient τ}
    (hlarger : ∀ client request, R (larger client request) (client request)) (model : Text)
    (objective : Objective) :
    R (generate (client?.map larger) model objective) (generate client? model objective) := by
  cases client? with
  | none => exact hR.done _
  | some client =>
      refine hR.bind (hR.log _ _) fun _ => ?_
      refine hR.bind (hR.outcome (hlarger client _)) fun ended => ?_
      cases ended with
      | error failure => exact hR.done _
      | ok reply? => exact hR.done _

namespace Run

/-- Plans whose parts are related: how the model is asked, how a cancellation is noticed,
and how one scenario is validated. -/
structure Plan.Related (R : ∀ {α : Type}, Routine τ α → Routine σ α → Prop) (plan' : Plan τ η)
    (plan : Plan σ η) : Prop where
  model : plan'.model = plan.model
  options : plan'.options = plan.options
  replyDepth : plan'.replyDepth = plan.replyDepth
  reply : ∀ objective, R (Generation.generate plan'.client? plan'.model objective)
    (Generation.generate plan.client? plan.model objective)
  poll : R plan'.poll plan.poll
  validateOne : ∀ url scenario, R (validateOne plan' url scenario) (validateOne plan url scenario)

variable {plan' : Plan τ η} {plan : Plan σ η}

theorem related_generate (hR : IsCongruence R) (hplan : plan'.Related R plan) (runId : Text)
    (objective : Objective) : R (generate plan' runId objective) (generate plan runId objective) := by
  refine hR.bind (hR.log _ _) fun _ => ?_
  refine hR.bind (hplan.reply objective) fun ended => ?_
  cases ended with
  | error error => exact hR.done _
  | ok reply =>
      dsimp only
      rw [hplan.replyDepth]
      split <;> exact hR.done _

theorem related_validateAll (hR : IsCongruence R) (hplan : plan'.Related R plan)
    (runId url : Text) (scenarios : List Scenario) :
    R (validateAll plan' runId url scenarios) (validateAll plan runId url scenarios) := by
  induction scenarios with
  | nil => exact hR.done _
  | cons scenario rest ih =>
      refine hR.bind hplan.poll fun cancelled => ?_
      cases cancelled with
      | true => exact hR.bind (hR.log _ _) fun _ => hR.done _
      | false =>
          refine hR.bind (hplan.validateOne url scenario) fun ended => ?_
          cases ended with
          | error error => exact hR.bind (hR.log _ _) fun _ => hR.done _
          | ok report => exact hR.bind ih fun later => hR.done _

theorem related_compileAll (hR : IsCongruence R) (hplan : plan'.Related R plan) (runId : Text)
    (total index : Nat) (outputs : List Output) :
    R (compileAll plan' runId total index outputs) (compileAll plan runId total index outputs) := by
  induction outputs generalizing index with
  | nil => exact hR.done _
  | cons output rest ih =>
      refine hR.bind hplan.poll fun cancelled => ?_
      cases cancelled with
      | true => exact hR.bind (hR.log _ _) fun _ => hR.done _
      | false =>
          simp only [Bool.false_eq_true, if_false, hplan.options]
          cases Suite.compile output.scenario (optionsFor plan.options index total)
              output.outcomes with
          | ok artifact =>
              refine hR.bind (ih (index + 1)) fun later => ?_
              cases later <;> exact hR.done _
          | error error =>
              cases error with
              | lacksData name steps =>
                  refine hR.bind (hR.log _ _) fun _ => ?_
                  refine hR.bind (ih (index + 1)) fun later => ?_
                  cases later <;> exact hR.done _
              | noName found => exact hR.done _
              | pauseTooLong count => exact hR.done _

theorem related_run (hR : IsCongruence R) (hplan : plan'.Related R plan) (occasion : Occasion)
    (objective : Objective) : R (run plan' occasion objective) (run plan occasion objective) := by
  refine hR.bind hplan.poll fun cancelled => ?_
  cases cancelled with
  | true => exact hR.done _
  | false =>
      refine hR.bind (related_generate hR hplan _ objective) fun generated => ?_
      cases generated with
      | error error => exact hR.done _
      | ok scenarios =>
          have hvalidate := related_validateAll hR hplan occasion.runId objective.url scenarios
          refine hR.bind hvalidate fun validated => ?_
          have hcompile : R (compileValidated plan' occasion.runId validated)
              (compileValidated plan occasion.runId validated) := by
            unfold compileValidated
            split
            · exact hR.done _
            · exact related_compileAll hR hplan _ _ _ _
          refine hR.bind hcompile fun compiled => ?_
          cases compiled with
          | error error => exact hR.done _
          | ok found =>
              have hresult : resultOf plan' occasion validated found.1 found.2 =
                  resultOf plan occasion validated found.1 found.2 := by
                simp only [resultOf, hplan.model]
              dsimp only
              rw [hresult]
              exact hR.bind (hR.log _ _) fun _ => hR.done _

end Run

end PageScript
