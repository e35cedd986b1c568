import PageScript.Record.Checked
import PageScript.Record.Dump
import PageScript.Scenario.Record

namespace PageScript

open Record

inductive Strategy where
  | unchanged
  | testId
  | ariaLabel
  | role
  | text
  | cssFallback
  deriving DecidableEq, Repr

namespace Strategy

def label : Strategy → Text
  | .unchanged => "unchanged"
  | .testId => "data-testid"
  | .ariaLabel => "aria-label"
  | .role => "role"
  | .text => "text"
  | .cssFallback => "css-fallback"

def all : List Strategy := [unchanged, testId, ariaLabel, role, text, cssFallback]

def words : List (Text × Strategy) := all.map fun strategy => (strategy.label, strategy)

def read : Reader Strategy := Reader.word .noMember words

end Strategy

structure Outcome where
  stepIndex : Int
  resolved : Bool
  originalTarget : Text
  finalTarget : Text
  strategy : Strategy
  warning? : Option Text
  deriving DecidableEq, Repr

namespace Outcome

def title : Text := "ValidationOutcome"

def stepIndexKey : Key := .camelCase "step_index"
def resolvedKey : Key := .camelCase "resolved"
def originalTargetKey : Key := .camelCase "original_target"
def finalTargetKey : Key := .camelCase "final_target"
def strategyKey : Key := .camelCase "strategy"
def warningKey : Key := .camelCase "warning"

def read : Reader Outcome := Reader.record title fun entries =>
  Outcome.mk <$> required stepIndexKey Reader.int entries
    <*> required resolvedKey Reader.bool entries
    <*> required originalTargetKey Reader.text entries
    <*> required finalTargetKey Reader.text entries
    <*> optional strategyKey .unchanged Strategy.read entries
    <*> optional warningKey none (Reader.nullable Reader.text) entries

def dump (outcome : Outcome) : Dump := .record
  [(stepIndexKey, .int outcome.stepIndex), (resolvedKey, .bool outcome.resolved),
   (originalTargetKey, .text outcome.originalTarget),
   (finalTargetKey, .text outcome.finalTarget),
   (strategyKey, .text outcome.strategy.label), (warningKey, .text? outcome.warning?)]

/-- The warning, unless it is empty. -/
def notice? (outcome : Outcome) : Option Text := Text.nonempty? outcome.warning?

/-- The outcome with one more remark at the end of its warning. -/
def addNote (outcome : Outcome) (note : Text) : Outcome :=
  match outcome.notice? with
  | some warning => { outcome with warning? := some (warning ++ "; " ++ note) }
  | none => { outcome with warning? := some note }

/-- The number of the step, counted from one, in front of a remark on it. -/
def numbered (outcome : Outcome) (remark : Text) : Text :=
  "step " ++ toString (outcome.stepIndex + 1) ++ ": " ++ remark

end Outcome

/-- A scenario whose targets are the final ones, and the outcomes of its steps. -/
structure Report where
  scenario : Scenario
  outcomes : List Outcome
  deriving DecidableEq, Repr

namespace Report

def title : Text := "ValidationReport"

def scenarioKey : Key := .camelCase "scenario"
def outcomesKey : Key := .camelCase "outcomes"

def read : Reader Report := Reader.record title fun entries =>
  Report.mk <$> required scenarioKey Scenario.read entries
    <*> optional outcomesKey [] (Reader.list Outcome.read) entries

def dump (report : Report) : Dump := .record
  [(scenarioKey, report.scenario.dump), (outcomesKey, .list (report.outcomes.map Outcome.dump))]

def resolvedCount (report : Report) : Nat := report.outcomes.countP (·.resolved)

def warnings (report : Report) : List Text :=
  report.outcomes.filterMap fun outcome => outcome.notice?.map outcome.numbered

end Report

end PageScript
