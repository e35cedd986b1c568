import PageScript.Record.Checked
import PageScript.Record.Dump
import PageScript.Scenario

namespace PageScript

open Record

def Action.words : List (Text × Action) := Action.all.map fun action => (action.label, action)

def Action.read : Reader Action := Reader.word .noneOf Action.words

namespace Step

def title : Text := "TestStep"

def actionKey : Key := .camelCase "action"
def targetKey : Key := .camelCase "target"
def dataKey : Key := .camelCase "data"
def descriptionKey : Key := .camelCase "description"

/-- A target is a text that is not blank. -/
def readTarget : Reader Text := fun data =>
  match Reader.text data with
  | .valid s => if Text.isBlankText s then .refuse .blankTarget else .valid s
  | .invalid issues => .invalid issues

def read : Reader Step := Reader.record title fun entries =>
  Step.mk <$> required actionKey Action.read entries
    <*> required targetKey readTarget entries
    <*> optional dataKey none (Reader.nullable Reader.text) entries
    <*> optional descriptionKey "" Reader.text entries

def dump (step : Step) : Dump := .record
  [(actionKey, .text step.action.label), (targetKey, .text step.target),
   (dataKey, .text? step.data?), (descriptionKey, .text step.description)]

end Step

namespace Scenario

def title : Text := "TestScenario"

def idKey : Key := .camelCase "id"
def nameKey : Key := .camelCase "name"
def descriptionKey : Key := .camelCase "description"
def stepsKey : Key := .camelCase "steps"
def tagsKey : Key := .camelCase "tags"

def read : Reader Scenario := Reader.record title fun entries =>
  Scenario.mk <$> required idKey Reader.text entries
    <*> required nameKey Reader.text entries
    <*> optional descriptionKey none (Reader.nullable Reader.text) entries
    <*> optional stepsKey [] (Reader.list Step.read) entries
    <*> optional tagsKey [] (Reader.list Reader.text) entries

def dump (scenario : Scenario) : Dump := .record
  [(idKey, .text scenario.id), (nameKey, .text scenario.name),
   (descriptionKey, .text? scenario.description?),
   (stepsKey, .list (scenario.steps.map Step.dump)), (tagsKey, .texts scenario.tags)]

/-- Reads a scenario, or tells what is wrong with the data. -/
def ofDatum (data : Datum) : Except Mismatch Scenario := readAs title read data

end Scenario

namespace Draft

def title : Text := "DraftScenario"

def nameKey : Key := .plain "name"
def descriptionKey : Key := .plain "description"
def tagsKey : Key := .plain "tags"
def stepsKey : Key := .plain "steps"

def read : Reader Draft := Reader.record title fun entries =>
  Draft.mk <$> required nameKey Reader.text entries
    <*> optional descriptionKey none (Reader.nullable Reader.text) entries
    <*> optional tagsKey [] (Reader.list Reader.text) entries
    <*> required stepsKey (Reader.list Step.read) entries

def dump (draft : Draft) : Dump := .record
  [(nameKey, .text draft.name), (descriptionKey, .text? draft.description?),
   (tagsKey, .texts draft.tags), (stepsKey, .list (draft.steps.map Step.dump))]

end Draft

end PageScript
