import PageScript.Outcome
import PageScript.Suite.Artifact
import PageScript.Suite.Outline

namespace PageScript.Run

open Record

/-- A scenario of a run and what validation found out about it. -/
structure Output where
  scenario : Scenario
  outcomes : List Outcome
  deriving DecidableEq, Repr

structure Metadata where
  generatedAt : Text
  model : Text
  totalTime? : Option Text
  source? : Option Text
  validated : Bool
  stage : Text
  deriving DecidableEq, Repr

structure Generated where
  runId : Text
  outputs : List Output
  metadata : Metadata
  deriving DecidableEq, Repr

structure Compilation where
  runId : Text
  outline : Suite.Outline
  artifact : Suite.Artifact
  deriving DecidableEq, Repr

/-- Something that went wrong at some stage, with one scenario or with all. -/
structure StageError where
  stage : Text
  kind : Text
  message : Text
  scenarioId? : Option Text
  deriving DecidableEq, Repr

structure Result where
  runId : Text
  generation : Generated
  compilations : List Compilation
  errors : List StageError
  deriving DecidableEq, Repr

def runIdKey : Key := .camelCase "run_id"

namespace Output

def title : Text := "ScenarioOutput"

def scenarioKey : Key := .camelCase "scenario"
def outcomesKey : Key := .camelCase "outcomes"

def read : Reader Output := Reader.record title fun entries =>
  Output.mk <$> required scenarioKey Scenario.read entries
    <*> optional outcomesKey [] (Reader.list Outcome.read) entries

def dump (output : Output) : Dump := .record
  [(scenarioKey, output.scenario.dump), (outcomesKey, .list (output.outcomes.map Outcome.dump))]

end Output

namespace Metadata

def title : Text := "RunMetadata"

def generatedAtKey : Key := .camelCase "generated_at"
def modelKey : Key := .camelCase "model"
def totalTimeKey : Key := .camelCase "total_time"
def sourceKey : Key := .camelCase "source"
def validatedKey : Key := .camelCase "mcp_validation_successful"
def stageKey : Key := .camelCase "stage"

def read : Reader Metadata := Reader.record title fun entries =>
  Metadata.mk <$> required generatedAtKey Reader.text entries
    <*> required modelKey Reader.text entries
    <*> optional totalTimeKey none (Reader.nullable Reader.text) entries
    <*> optional sourceKey none (Reader.nullable Reader.text) entries
    <*> optional validatedKey false Reader.bool entries
    <*> optional stageKey "generated" Reader.text entries

def dump (metadata : Metadata) : Dump := .record
  [(generatedAtKey, .text metadata.generatedAt), (modelKey, .text metadata.model),
   (totalTimeKey, .text? metadata.totalTime?), (sourceKey, .text? metadata.source?),
   (validatedKey, .bool metadata.validated), (stageKey, .text metadata.stage)]

end Metadata

namespace Generated

def title : Text := "LLMRunOutput"

def outputsKey : Key := .camelCase "outputs"
def metadataKey : Key := .camelCase "metadata"

def read : Reader Generated := Reader.record title fun entries =>
  Generated.mk <$> required runIdKey Reader.text entries
    <*> optional outputsKey [] (Reader.list Output.read) entries
    <*> required metadataKey Metadata.read entries

def dump (generated : Generated) : Dump := .record
  [(runIdKey, .text generated.runId), (outputsKey, .list (generated.outputs.map Output.dump)),
   (metadataKey, generated.metadata.dump)]

end Generated

namespace Compilation

def title : Text := "CompilationResult"

def outlineKey : Key := .camelCase "ir"
def artifactKey : Key := .camelCase "artifacts"

def read : Reader Compilation := Reader.record title fun entries =>
  Compilation.mk <$> required runIdKey Reader.text entries
    <*> required outlineKey Suite.Outline.read entries
    <*> required artifactKey Suite.Artifact.read entries

def dump (compilation : Compilation) : Dump := .record
  [(runIdKey, .text compilation.runId), (outlineKey, compilation.outline.dump),
   (artifactKey, compilation.artifact.dump)]

end Compilation

namespace StageError

def title : Text := "StageError"

def stageKey : Key := .camelCase "stage"
def kindKey : Key := .camelCase "kind"
def messageKey : Key := .camelCase "message"
def scenarioIdKey : Key := .camelCase "scenario_id"

def read : Reader StageError := Reader.record title fun entries =>
  StageError.mk <$> required stageKey Reader.text entries
    <*> required kindKey Reader.text entries
    <*> required messageKey Reader.text entries
    <*> optional scenarioIdKey none (Reader.nullable Reader.text) entries

def dump (error : StageError) : Dump := .record
  [(stageKey, .text error.stage), (kindKey, .text error.kind), (messageKey, .text error.message),
   (scenarioIdKey, .text? error.scenarioId?)]

end StageError

namespace Result

def title : Text := "PipelineResult"

def generationKey : Key := .camelCase "generation"
def compilationsKey : Key := .camelCase "compilations"
def errorsKey : Key := .camelCase "errors"

def read : Reader Result := Reader.record title fun entries =>
  Result.mk <$> required runIdKey Reader.text entries
    <*> required generationKey Generated.read entries
    <*> optional compilationsKey [] (Reader.list Compilation.read) entries
    <*> optional errorsKey [] (Reader.list StageError.read) entries

def dump (result : Result) : Dump := .record
  [(runIdKey, .text result.runId), (generationKey, result.generation.dump),
   (compilationsKey, .list (result.compilations.map Compilation.dump)),
   (errorsKey, .list (result.errors.map StageError.dump))]

end Result

end PageScript.Run
