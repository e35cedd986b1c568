import PageScript.Record.Checked
import PageScript.Record.Dump
import PageScript.Scenario

namespace PageScript.Suite

open Record

/-- A step: its action, the address or the selector it is done on, and its data. -/
structure OutlineStep where
  type : Text
  url? : Option Text
  selector? : Option Text
  value? : Option Text
  deriving DecidableEq, Repr

structure OutlineCase where
  id : Text
  name : Text
  steps : List OutlineStep
  deriving DecidableEq, Repr

structure Outline where
  suiteId : Text
  cases : List OutlineCase
  deriving DecidableEq, Repr

namespace OutlineStep

def ofStep (step : Step) : OutlineStep :=
  match step.action with
  | .goto => ⟨step.action.label, some step.target, none, step.data?⟩
  | _ => ⟨step.action.label, none, some step.target, step.data?⟩

def title : Text := "IRStep"

def typeKey : Key := .camelCase "type"
def urlKey : Key := .camelCase "url"
def selectorKey : Key := .camelCase "selector"
def valueKey : Key := .camelCase "value"

def read : Reader OutlineStep := Reader.record title fun entries =>
  OutlineStep.mk <$> required typeKey Reader.text entries
    <*> optional urlKey none (Reader.nullable Reader.text) entries
    <*> optional selectorKey none (Reader.nullable Reader.text) entries
    <*> optional valueKey none (Reader.nullable Reader.text) entries

def dump (step : OutlineStep) : Dump := .record
  [(typeKey, .text step.type), (urlKey, .text? step.url?),
   (selectorKey, .text? step.selector?), (valueKey, .text? step.value?)]

end OutlineStep

namespace OutlineCase

def title : Text := "IRCase"

def idKey : Key := .camelCase "id"
def nameKey : Key := .camelCase "name"
def stepsKey : Key := .camelCase "steps"

def read : Reader OutlineCase := Reader.record title fun entries =>
  OutlineCase.mk <$> required idKey Reader.text entries
    <*> required nameKey Reader.text entries
    <*> optional stepsKey [] (Reader.list OutlineStep.read) entries

def dump (case : OutlineCase) : Dump := .record
  [(idKey, .text case.id), (nameKey, .text case.name),
   (stepsKey, .list (case.steps.map OutlineStep.dump))]

end OutlineCase

namespace Outline

/-- The outline of a suite with one scenario. -/
def ofScenario (scenario : Scenario) (suiteId : Text) : Outline :=
  ⟨suiteId, [⟨scenario.id, scenario.name, scenario.steps.map OutlineStep.ofStep⟩]⟩

def title : Text := "CompiledIR"

def suiteIdKey : Key := .camelCase "suite_id"
def casesKey : Key := .camelCase "cases"

def read : Reader Outline := Reader.record title fun entries =>
  Outline.mk <$> required suiteIdKey Reader.text entries
    <*> optional casesKey [] (Reader.list OutlineCase.read) entries

def dump (outline : Outline) : Dump := .record
  [(suiteIdKey, .text outline.suiteId), (casesKey, .list (outline.cases.map OutlineCase.dump))]

end Outline

end PageScript.Suite
