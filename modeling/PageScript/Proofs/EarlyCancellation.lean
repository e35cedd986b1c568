import PageScript.Generation.Scripted
import PageScript.Proofs.CheckedValidation
import PageScript.Proofs.RefusedReplies
import PageScript.Proofs.RunContainment
/-!
Cancellation before validation.  A run asks whether it is cancelled before it asks
the model, and then not until the first scenario is to be validated.  So only what
has cancelled it before the model is asked makes it fail; later it has a result.
-/

namespace PageScript.Run

open Routine
open Scripted (Event)

variable {σ η : Type} {plan : Plan σ η} {occasion : Occasion} {objective : Objective}
  {runId : Text} {s t : σ}

theorem generate_ne_cancelled {error : Error}
    (h : (generate plan runId objective s).result = .ok (.error error, t)) (id : Text) :
    error ≠ .cancelled id := by
  rw [generate, note, result_bind_of_ok (result_log _ _ s)] at h
  obtain ⟨answer, asked, -, hanswer⟩ := result_bind_eq_ok h
  cases answer with
  | error problem =>
      obtain ⟨rfl, -⟩ := Prod.mk.inj (Except.ok.inj hanswer) |>.imp_left Except.error.inj
      simp
  | ok reply =>
      cases hread : Reply.scenarios plan.replyDepth reply runId with
      | error problem =>
          simp only [hread] at hanswer
          obtain ⟨rfl, -⟩ := Prod.mk.inj (Except.ok.inj hanswer) |>.imp_left Except.error.inj
          simp
      | ok scenarios =>
          simp only [hread] at hanswer
          exact absurd (Prod.mk.inj (Except.ok.inj hanswer)).1 (by simp)

theorem compileAll_ne_cancelled {total index : Nat} {outputs : List Output} {error : Error}
    (h : (compileAll plan runId total index outputs s).result = .ok (.error error, t)) (id : Text) :
    error ≠ .cancelled id := by
  induction outputs generalizing index s with
  | nil => exact absurd (Prod.mk.inj (Except.ok.inj h)).1 (by simp)
  | cons output rest ih =>
      rcases compileAll_cons_cases h with hended | ⟨problem, hended⟩ | ⟨later, -, hrest, hended⟩
      · exact absurd hended (by simp)
      · obtain rfl := Except.error.inj hended
        simp
      · cases later with
        | error problem =>
            obtain rfl := Except.error.inj hended
            exact ih hrest
        | ok found => exact absurd hended (by simp [Except.map])

theorem compileValidated_ne_cancelled {validated : Validated} {error : Error}
    (h : (compileValidated plan runId validated s).result = .ok (.error error, t)) (id : Text) :
    error ≠ .cancelled id := by
  unfold compileValidated at h
  split at h
  · exact absurd (Prod.mk.inj (Except.ok.inj h)).1 nofun
  · exact compileAll_ne_cancelled h id

theorem run_of_cancelled (hcancelled : plan.isCancelled (plan.meanwhile s) = true) :
    run plan occasion objective s =
      ⟨.ok (.error (.cancelled occasion.runId)), plan.meanwhile s, []⟩ := by
  have hpoll : plan.poll s = ⟨.ok true, plan.meanwhile s, []⟩ := by
    rw [← hcancelled]
    rfl
  have hvalue : (plan.poll s).value = .ok true := by rw [hpoll]
  rw [run, bind_of_ok hvalue, hpoll]
  rfl

theorem run_ne_cancelled (hfree : plan.isCancelled (plan.meanwhile s) = false) (id : Text) :
    (run plan occasion objective s).value ≠ .ok (.error (.cancelled id)) := by
  intro hvalue
  have hpoll : (plan.poll s).result = .ok (false, plan.meanwhile s) := by rw [result_poll, hfree]
  rcases run_cases hpoll (Done.result_eq_ok_iff.mpr ⟨hvalue, rfl⟩) with
    ⟨error, hgenerated, hended⟩ | ⟨-, -, validated, middle, compiled, -, -, hcompiled, hended⟩
  · obtain rfl := Except.error.inj hended
    exact generate_ne_cancelled hgenerated id rfl
  · cases compiled with
    | error error =>
        obtain rfl := Except.error.inj hended
        exact compileValidated_ne_cancelled hcompiled id rfl
    | ok found => exact absurd hended nofun

/-- What a run makes of scenarios none of which it has validated. -/
def draftsOnly (runId : Text) (scenarios : List Scenario) : Validated :=
  ⟨drafts scenarios, [cancellation runId "validation"], .cancelled⟩

theorem result_run_of_cancelledMeanwhile {reply : Text} {scenarios : List Scenario} {start : σ}
    (hfree : plan.isCancelled (plan.meanwhile s) = false)
    (hreply : (Generation.generate plan.client? plan.model objective (plan.meanwhile s)).result =
      .ok (.ok reply, start))
    (hparsed : Reply.scenarios plan.replyDepth reply occasion.runId = .ok scenarios)
    (hcancelled : plan.isCancelled (plan.meanwhile start) = true) :
    (run plan occasion objective s).result =
      .ok (.ok (resultOf plan occasion (draftsOnly occasion.runId scenarios) [] []),
        plan.meanwhile start) := by
  have hpoll : (plan.poll s).result = .ok (false, plan.meanwhile s) := by rw [result_poll, hfree]
  have hvalidated : (validateAll plan occasion.runId objective.url scenarios start).result =
      .ok (draftsOnly occasion.runId scenarios, plan.meanwhile start) := by
    obtain ⟨scenario, rest, rfl⟩ := List.exists_cons_of_ne_nil (Reply.scenarios_ne_nil hparsed)
    rw [result_validateAll_step, hcancelled, if_pos rfl]
    rfl
  exact result_run_of_compiled hpoll hreply hparsed hvalidated rfl

/-- What cancels a run before it has its scenarios keeps it from opening a page.  The
run fails as cancelled if, and only if, it is cancelled before the model is asked; if
it is cancelled while the model answers, it has a result that holds the drafts and
tells that validation was cancelled. -/
theorem run_cancelledEarly (plan : Plan σ η) (occasion : Occasion) (objective : Objective) (s : σ) :
    (∀ id, (run plan occasion objective s).value = .ok (.error (.cancelled id)) ↔
      plan.isCancelled (plan.meanwhile s) = true ∧ id = occasion.runId) ∧
    (plan.isCancelled (plan.meanwhile s) = true →
      (run plan.recorded occasion objective ⟨s, []⟩).state = ⟨plan.meanwhile s, []⟩) ∧
    (∀ reply scenarios start, plan.isCancelled (plan.meanwhile s) = false →
      (Generation.generate plan.client? plan.model objective (plan.meanwhile s)).result =
        .ok (.ok reply, start) →
      Reply.scenarios plan.replyDepth reply occasion.runId = .ok scenarios →
      plan.isCancelled (plan.meanwhile start) = true →
      ∃ result, (run plan occasion objective s).result = .ok (.ok result, plan.meanwhile start) ∧
        (run plan.recorded occasion objective ⟨s, []⟩).state = ⟨plan.meanwhile start, []⟩ ∧
        result.generation.outputs = drafts scenarios ∧ result.compilations = [] ∧
        result.errors = [cancellation occasion.runId "validation"]) := by
  refine ⟨fun id => ⟨fun hvalue => ?_, ?_⟩, fun hcancelled => ?_, ?_⟩
  · cases hcheck : plan.isCancelled (plan.meanwhile s) with
    | false => exact absurd hvalue (run_ne_cancelled hcheck id)
    | true =>
        rw [run_of_cancelled hcheck] at hvalue
        exact ⟨rfl, (Error.cancelled.inj (Except.error.inj (Except.ok.inj hvalue))).symm⟩
  · rintro ⟨hcancelled, rfl⟩
    rw [run_of_cancelled hcancelled]
  · have hcancelled' : plan.recorded.isCancelled (plan.recorded.meanwhile ⟨s, []⟩) = true :=
      hcancelled
    rw [run_of_cancelled hcancelled']
    rfl
  · intro reply scenarios start hfree hreply hparsed hcancelled
    obtain ⟨none, hnone, hreply'⟩ :=
      (records_reply (fun _ => false) plan objective).result_ok hreply []
    obtain rfl : none = [] := List.eq_nil_iff_forall_not_mem.mpr fun event hevent =>
      absurd (hnone event hevent) (by simp)
    have hfree' : plan.recorded.isCancelled (plan.recorded.meanwhile ⟨s, []⟩) = false := hfree
    have hcancelled' : plan.recorded.isCancelled (plan.recorded.meanwhile ⟨start, []⟩) = true :=
      hcancelled
    have hrecorded := result_run_of_cancelledMeanwhile hfree' hreply' hparsed hcancelled'
    exact ⟨_, result_run_of_cancelledMeanwhile hfree hreply hparsed hcancelled,
      (Done.result_eq_ok_iff.mp hrecorded).2, rfl, rfl, rfl⟩

open Scripted (Stage Conversation ModelScript) in
/-- A plan with a scripted model, which may cancel the run when it is asked. -/
def scriptedPlan (script : ModelScript) : Plan (Conversation Stage) Scripted.Element where
  client? := some (Conversation.client script fun stage => { stage with cancelled := true })
  model := "model"
  openPage := do
    let page ← Stage.openPage.within Conversation.world Conversation.putWorld
    return page.within Conversation.world Conversation.putWorld
  resolver := Validation.standardResolver
  isCancelled conversation := conversation.world.cancelled
  options := ⟨none, none, false, .locator⟩

/-- Where a run with scripted pages starts. -/
def rehearsalStart (pages : List Scripted.Script) : Scripted.Conversation Scripted.Stage :=
  .start (.start pages false)

theorem run_cancelledByModel_endsEarly :
    ∃ result, (run (scriptedPlan ⟨true, none, some twoScenariosReply⟩) rehearsal anyObjective
        (rehearsalStart [{}])).value = .ok (.ok result) ∧
      result.generation.outputs = [⟨firstScenario, []⟩, ⟨secondScenario, []⟩] ∧
      result.errors = [cancellation "run" "validation"] := by
  obtain ⟨-, -, hlate⟩ := run_cancelledEarly (scriptedPlan ⟨true, none, some twoScenariosReply⟩)
    rehearsal anyObjective (rehearsalStart [{}])
  obtain ⟨result, hresult, -, houtputs, -, herrors⟩ :=
    hlate _ _ _ rfl (Done.result_eq_ok_iff.mpr ⟨rfl, rfl⟩) scenarios_twoScenariosReply rfl
  exact ⟨result, (Done.result_eq_ok_iff.mp hresult).1, houtputs, herrors⟩

/-- A run that is cancelled while the model answers does not fail as cancelled. -/
theorem run_cancelledByModel_hasResult :
    (scriptedPlan ⟨true, none, some twoScenariosReply⟩).isCancelled (rehearsalStart [{}]) = false ∧
      (Generation.generate (scriptedPlan ⟨true, none, some twoScenariosReply⟩).client? "model"
        anyObjective (rehearsalStart [{}])).state.world.cancelled = true ∧
      ∃ result, (run (scriptedPlan ⟨true, none, some twoScenariosReply⟩) rehearsal anyObjective
        (rehearsalStart [{}])).value = .ok (.ok result) := by
  have hreply : (Generation.generate
      (scriptedPlan ⟨true, none, some twoScenariosReply⟩).client? "model" anyObjective
        (rehearsalStart [{}])).result = .ok (.ok twoScenariosReply, _) :=
    Done.result_eq_ok_iff.mpr ⟨rfl, rfl⟩
  have hresult := result_run_of_cancelledMeanwhile (s := rehearsalStart [{}]) rfl hreply
    scenarios_twoScenariosReply rfl
  exact ⟨rfl, rfl, _, (Done.result_eq_ok_iff.mp hresult).1⟩

end PageScript.Run
