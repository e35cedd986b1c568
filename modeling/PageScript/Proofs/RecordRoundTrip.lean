import PageScript.Generation
import PageScript.Proofs.RecordFields
import PageScript.Run.Result

namespace PageScript
open Record

namespace Step

theorem readsBack_action : ReadsBack Action.read fun action => .text action.label :=
  .word fun action => by cases action <;> decide

theorem readsBack_target : ReadsBack readTarget .text := by
  rintro data s hread _ ⟨⟩
  unfold readTarget at hread ⊢
  split at hread
  · split at hread
    · exact absurd hread nofun
    · rename_i hblank
      obtain rfl := Checked.valid.inj hread
      simp only [Reader.text, if_neg hblank]
  · exact absurd hread nofun

def fields : List (FieldOf Step) :=
  [.required actionKey readsBack_action Step.action,
   .required targetKey readsBack_target Step.target,
   .optional dataKey .text? none ⟨.null, rfl⟩ Step.data?,
   .optional descriptionKey .text "" ⟨.text "", rfl⟩ Step.description]

theorem hasFields : HasFields Step.read Step.dump Step.fields where
  reads _ value := by cases value; simp [Step.read, Step.fields]
  congr _ _ h := by simp_all [Step.read, Step.fields]

end Step

namespace Scenario

def fields : List (FieldOf Scenario) :=
  [.required idKey .text Scenario.id,
   .required nameKey .text Scenario.name,
   .optional descriptionKey .text? none ⟨.null, rfl⟩ Scenario.description?,
   .optional stepsKey Step.hasFields.readsBack.list [] ⟨.list [], rfl⟩ Scenario.steps,
   .optional tagsKey .texts [] ⟨.list [], rfl⟩ Scenario.tags]

theorem hasFields : HasFields Scenario.read Scenario.dump Scenario.fields where
  reads _ value := by cases value; simp [Scenario.read, Scenario.fields]
  congr _ _ h := by simp_all [Scenario.read, Scenario.fields]

end Scenario

namespace Outcome

theorem readsBack_strategy : ReadsBack Strategy.read fun strategy => .text strategy.label :=
  .word fun strategy => by cases strategy <;> decide

def fields : List (FieldOf Outcome) :=
  [.required stepIndexKey .int Outcome.stepIndex,
   .required resolvedKey .bool Outcome.resolved,
   .required originalTargetKey .text Outcome.originalTarget,
   .required finalTargetKey .text Outcome.finalTarget,
   .optional strategyKey readsBack_strategy .unchanged ⟨.text "unchanged", rfl⟩ Outcome.strategy,
   .optional warningKey .text? none ⟨.null, rfl⟩ Outcome.warning?]

theorem hasFields : HasFields Outcome.read Outcome.dump Outcome.fields where
  reads _ value := by cases value; simp [Outcome.read, Outcome.fields]
  congr _ _ h := by simp_all [Outcome.read, Outcome.fields]

end Outcome

namespace Report

def fields : List (FieldOf Report) :=
  [.required scenarioKey Scenario.hasFields.readsBack Report.scenario,
   .optional outcomesKey Outcome.hasFields.readsBack.list [] ⟨.list [], rfl⟩ Report.outcomes]

theorem hasFields : HasFields Report.read Report.dump Report.fields where
  reads _ value := by cases value; simp [Report.read, Report.fields]
  congr _ _ h := by simp_all [Report.read, Report.fields]

end Report

namespace Credentials

def fields : List (FieldOf Credentials) :=
  [.required usernameKey .text Credentials.username,
   .optional passwordKey .text? none ⟨.null, rfl⟩ Credentials.password?,
   .optional secretRefKey .text? none ⟨.null, rfl⟩ Credentials.secretRef?]

theorem hasFields : HasFields Credentials.read Credentials.dump Credentials.fields where
  reads _ value := by cases value; simp [Credentials.read, Credentials.fields]
  congr _ _ h := by simp_all [Credentials.read, Credentials.fields]

end Credentials

namespace Suite

namespace SourceFile

def fields : List (FieldOf SourceFile) :=
  [.required nameKey .text SourceFile.name,
   .required sourceKey .text SourceFile.source]

theorem hasFields : HasFields SourceFile.read SourceFile.dump SourceFile.fields where
  reads _ value := by cases value; simp [SourceFile.read, SourceFile.fields]
  congr _ _ h := by simp_all [SourceFile.read, SourceFile.fields]

end SourceFile

namespace Artifact

def fields : List (FieldOf Artifact) :=
  [.required testFileNameKey .text Artifact.testFileName,
   .required suiteIdKey .text Artifact.suiteId,
   .optional pageObjectsKey SourceFile.hasFields.readsBack.list [] ⟨.list [], rfl⟩ Artifact.pageObjects,
   .required testSourceKey .text Artifact.testSource]

theorem hasFields : HasFields Artifact.read Artifact.dump Artifact.fields where
  reads _ value := by cases value; simp [Artifact.read, Artifact.fields]
  congr _ _ h := by simp_all [Artifact.read, Artifact.fields]

end Artifact

namespace OutlineStep

def fields : List (FieldOf OutlineStep) :=
  [.required typeKey .text OutlineStep.type,
   .optional urlKey .text? none ⟨.null, rfl⟩ OutlineStep.url?,
   .optional selectorKey .text? none ⟨.null, rfl⟩ OutlineStep.selector?,
   .optional valueKey .text? none ⟨.null, rfl⟩ OutlineStep.value?]

theorem hasFields : HasFields OutlineStep.read OutlineStep.dump OutlineStep.fields where
  reads _ value := by cases value; simp [OutlineStep.read, OutlineStep.fields]
  congr _ _ h := by simp_all [OutlineStep.read, OutlineStep.fields]

end OutlineStep

namespace OutlineCase

def fields : List (FieldOf OutlineCase) :=
  [.required idKey .text OutlineCase.id,
   .required nameKey .text OutlineCase.name,
   .optional stepsKey OutlineStep.hasFields.readsBack.list [] ⟨.list [], rfl⟩ OutlineCase.steps]

theorem hasFields : HasFields OutlineCase.read OutlineCase.dump OutlineCase.fields where
  reads _ value := by cases value; simp [OutlineCase.read, OutlineCase.fields]
  congr _ _ h := by simp_all [OutlineCase.read, OutlineCase.fields]

end OutlineCase

namespace Outline

def fields : List (FieldOf Outline) :=
  [.required suiteIdKey .text Outline.suiteId,
   .optional casesKey OutlineCase.hasFields.readsBack.list [] ⟨.list [], rfl⟩ Outline.cases]

theorem hasFields : HasFields Outline.read Outline.dump Outline.fields where
  reads _ value := by cases value; simp [Outline.read, Outline.fields]
  congr _ _ h := by simp_all [Outline.read, Outline.fields]

end Outline

end Suite

namespace Run

namespace Output

def fields : List (FieldOf Output) :=
  [.required scenarioKey Scenario.hasFields.readsBack Output.scenario,
   .optional outcomesKey Outcome.hasFields.readsBack.list [] ⟨.list [], rfl⟩ Output.outcomes]

theorem hasFields : HasFields Output.read Output.dump Output.fields where
  reads _ value := by cases value; simp [Output.read, Output.fields]
  congr _ _ h := by simp_all [Output.read, Output.fields]

end Output

namespace Metadata

def fields : List (FieldOf Metadata) :=
  [.required generatedAtKey .text Metadata.generatedAt,
   .required modelKey .text Metadata.model,
   .optional totalTimeKey .text? none ⟨.null, rfl⟩ Metadata.totalTime?,
   .optional sourceKey .text? none ⟨.null, rfl⟩ Metadata.source?,
   .optional validatedKey .bool false ⟨.bool false, rfl⟩ Metadata.validated,
   .optional stageKey .text "generated" ⟨.text "generated", rfl⟩ Metadata.stage]

theorem hasFields : HasFields Metadata.read Metadata.dump Metadata.fields where
  reads _ value := by cases value; simp [Metadata.read, Metadata.fields]
  congr _ _ h := by simp_all [Metadata.read, Metadata.fields]

end Metadata

namespace Generated

def fields : List (FieldOf Generated) :=
  [.required runIdKey .text Generated.runId,
   .optional outputsKey Output.hasFields.readsBack.list [] ⟨.list [], rfl⟩ Generated.outputs,
   .required metadataKey Metadata.hasFields.readsBack Generated.metadata]

theorem hasFields : HasFields Generated.read Generated.dump Generated.fields where
  reads _ value := by cases value; simp [Generated.read, Generated.fields]
  congr _ _ h := by simp_all [Generated.read, Generated.fields]

end Generated

namespace Compilation

def fields : List (FieldOf Compilation) :=
  [.required runIdKey .text Compilation.runId,
   .required outlineKey Suite.Outline.hasFields.readsBack Compilation.outline,
   .required artifactKey Suite.Artifact.hasFields.readsBack Compilation.artifact]

theorem hasFields : HasFields Compilation.read Compilation.dump Compilation.fields where
  reads _ value := by cases value; simp [Compilation.read, Compilation.fields]
  congr _ _ h := by simp_all [Compilation.read, Compilation.fields]

end Compilation

namespace StageError

def fields : List (FieldOf StageError) :=
  [.required stageKey .text StageError.stage,
   .required kindKey .text StageError.kind,
   .required messageKey .text StageError.message,
   .optional scenarioIdKey .text? none ⟨.null, rfl⟩ StageError.scenarioId?]

theorem hasFields : HasFields StageError.read StageError.dump StageError.fields where
  reads _ value := by cases value; simp [StageError.read, StageError.fields]
  congr _ _ h := by simp_all [StageError.read, StageError.fields]

end StageError

namespace Result

def fields : List (FieldOf Result) :=
  [.required runIdKey .text Result.runId,
   .required generationKey Generated.hasFields.readsBack Result.generation,
   .optional compilationsKey Compilation.hasFields.readsBack.list [] ⟨.list [], rfl⟩ Result.compilations,
   .optional errorsKey StageError.hasFields.readsBack.list [] ⟨.list [], rfl⟩ Result.errors]

theorem hasFields : HasFields Result.read Result.dump Result.fields where
  reads _ value := by cases value; simp [Result.read, Result.fields]
  congr _ _ h := by simp_all [Result.read, Result.fields]

end Result

end Run

namespace Record

/-- The keys of a record that is written out. -/
def Dump.keys : Dump → List Key
  | .record fields => fields.map Prod.fst
  | _ => []

end Record

end PageScript
