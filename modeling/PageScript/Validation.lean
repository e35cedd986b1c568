import PageScript.Resolution
/-!
Validating a scenario on a live page.  Each step that interacts with the page is
done there before the next one is looked at, so that a selector is checked
against the page that it will meet.
-/

namespace PageScript.Validation

variable {σ η : Type}

/-- Why a scenario cannot be validated at all. -/
inductive NavigationError where
  /-- No page could be opened. -/
  | noPage (url : Text) (failure : Failure)
  /-- The address could not be loaded. -/
  | notLoaded (url : Text) (failure : Failure)
  deriving DecidableEq, Repr

def NavigationError.message : NavigationError → Text
  | .noPage url failure => "Could not open a page for " ++ url ++ ": " ++ failure.message
  | .notLoaded url failure => "Failed to navigate to " ++ url ++ ": " ++ failure.message

/-- A way to find the outcome of the step at a place. -/
abbrev Resolver (σ η : Type) := Page σ η → Step → Nat → Routine σ Outcome

/-- The resolver that is used when no other is given. -/
def standardResolver : Resolver σ η := fun page step index =>
  Resolution.resolve page step (index : Int)

/-- Does the interaction of a step on the page, with the selector that the step
was given, and tells what went wrong. -/
def perform (page : Page σ η) (step : Step) : Routine σ (Option Text) :=
  match Interaction.ofStep? step with
  | none => return none
  | some interaction => do
      match ← (page.perform interaction).outcome with
      | .ok () => return none
      | .error failure =>
          Routine.log .warning
            ("  - " ++ step.action.label ++ " on '" ++ step.target ++ "' failed: " ++
              failure.message)
          return some failure.summary

/-- The remark on a step that lacks data. -/
def missingDataNote (step : Step) : Text :=
  "missing data for '" ++ step.action.label ++ "' step"

/-- The outcome of a step after its interaction, if it has one. -/
def replay (page : Page σ η) (step : Step) (outcome : Outcome) : Routine σ Outcome :=
  if step.lacksData then return outcome.addNote (missingDataNote step)
  else if outcome.resolved && step.action.interacts then do
    match ← perform page step with
    | none => return outcome
    | some problem => return outcome.addNote ("interaction failed: " ++ problem)
  else return outcome

def validateStep (resolver : Resolver σ η) (page : Page σ η) (index : Nat) (step : Step) :
    Routine σ Outcome := do
  match ← (resolver page step index).outcome with
  | .ok outcome => replay page step outcome
  | .error failure =>
      Routine.log .warning
        ("Could not validate step " ++ toString (index + 1) ++ " (" ++ step.description ++ "): " ++
          failure.message)
      return Resolution.kept step (index : Int) false .unchanged (some failure.summary)

/-- Validates steps in order, the first one having the place `index`. -/
def validateSteps (resolver : Resolver σ η) (page : Page σ η) (index : Nat) :
    List Step → Routine σ (List Outcome)
  | [] => return []
  | step :: rest => do
      let outcome ← validateStep resolver page index step
      let more ← validateSteps resolver page (index + 1) rest
      return outcome :: more

def withFinalTargets (scenario : Scenario) (outcomes : List Outcome) : Scenario :=
  { scenario with
    steps := scenario.steps.zipWith (fun step outcome => { step with target := outcome.finalTarget })
      outcomes }

/-- Validates a scenario on a page that has been opened. -/
def validateOn (resolver : Resolver σ η) (page : Page σ η) (scenario : Scenario) (url : Text) :
    Routine σ (Except NavigationError (List Outcome)) := do
  match ← (page.visit url).outcome with
  | .error failure => return .error (.notLoaded url failure)
  | .ok () =>
      let outcomes ← validateSteps resolver page 0 scenario.steps
      return .ok outcomes

/-- Validates a scenario on a new page, which is closed afterwards whatever
happens. -/
def validate (resolver : Resolver σ η) (openPage : Routine σ (Page σ η)) (scenario : Scenario)
    (url : Text) : Routine σ (Except NavigationError Report) := do
  Routine.log .info ("Validating selectors for '" ++ scenario.name ++ "' at " ++ url)
  match ← openPage.outcome with
  | .error failure => return .error (.noPage url failure)
  | .ok page =>
      match ← (validateOn resolver page scenario url).finally_ page.close with
      | .error error => return .error error
      | .ok outcomes =>
          let report : Report := ⟨withFinalTargets scenario outcomes, outcomes⟩
          Routine.log .info
            ("Validated " ++ toString report.resolvedCount ++ "/" ++
              toString outcomes.length ++ " steps for '" ++ scenario.name ++ "'")
          return .ok report

end PageScript.Validation
