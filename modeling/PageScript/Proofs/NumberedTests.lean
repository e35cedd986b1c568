import PageScript.Proofs.SharedFiles
import PageScript.Proofs.SortedScenarios

namespace PageScript

theorem Name.fileName_eq_of_ne {text : Text} (htext : text ≠ "") (fallback other : Text) :
    fileName text fallback = fileName text other := by
  rw [fileName_eq_marked htext, fileName_eq_marked htext]

namespace Run

variable {σ η : Type} {plan : Plan σ η} {occasion : Occasion} {objective : Objective}
  {runId name : Text} {s : σ} {result : Result} {total i : Nat} {output : Output}
  {compilation : Compilation}

theorem testFileName_of_compilation? (hfile : plan.options.fileName? = some name)
    (hname : name ≠ "") (htotal : 2 ≤ total)
    (h : compilation? plan runId total i output = some compilation) :
    compilation.artifact.testFileName = Name.fileName (numberedName name (i + 1)) "" := by
  have hgiven : Text.nonempty? plan.options.fileName? = some name := by
    rw [hfile, Text.nonempty?, Option.filter_some, if_pos]
    simpa [Text.ofString] using hname
  obtain ⟨fallback, htest⟩ :=
    testFileNameOf_optionsFor_of_some hgiven i htotal output.scenario
  rw [Suite.testFileName_eq (compile_of_compilation? h), htest]
  exact Name.fileName_eq_of_ne (numberedName_ne_empty name (i + 1)) _ _

/-- The tests of a run with a given file name are written to different files: to those with the
numbers of their scenarios. -/
theorem run_testFileNames_nodup (h : (run plan occasion objective s).value = .ok (.ok result))
    (hfile : plan.options.fileName? = some name) (hname : name ≠ "")
    (htotal : 2 ≤ result.generation.outputs.length) :
    (result.compilations.map fun compilation => compilation.artifact.testFileName).Nodup ∧
      ∀ compilation ∈ result.compilations, ∃ i output,
        result.generation.outputs[i]? = some output ∧
        compilation? plan occasion.runId result.generation.outputs.length i output =
          some compilation ∧
        compilation.artifact.testFileName = Name.fileName (numberedName name (i + 1)) "" := by
  have hnumbered : ∀ {i output compilation},
      compilation? plan occasion.runId result.generation.outputs.length i output =
        some compilation →
      compilation.artifact.testFileName = Name.fileName (numberedName name (i + 1)) "" :=
    fun hfound => testFileName_of_compilation? hfile hname htotal hfound
  refine ⟨?_, fun compilation hmem => ?_⟩
  · rw [List.nodup_iff_pairwise_ne, List.pairwise_map]
    apply pairwise_compilations_of_run h
    intro i j v w first second hij hv hw hfirst hsecond hsame
    rw [hnumbered hfirst, hnumbered hsecond] at hsame
    -- The file tells the number, with or without a digest behind it.
    have hnumber := eq_of_fileName_numberedName_eq hsame
    omega
  · obtain ⟨i, output, houtput, hfound⟩ := exists_output_of_mem_compilations h hmem
    exact ⟨i, output, houtput, hfound, hnumbered hfound⟩

/-- A reply with three scenarios, the second of which lacks data. -/
def unfilledSecondReply : Text :=
  "[\x7b\"name\":\"a\",\"steps\":[]\x7d," ++
    "\x7b\"name\":\"b\",\"steps\":[\x7b\"action\":\"fill\",\"target\":\"#a\"\x7d]\x7d," ++
    "\x7b\"name\":\"c\",\"steps\":[]\x7d]"

def numberedPlan : Plan Nat Unit :=
  { emptyPagesPlan unfilledSecondReply with options := ⟨some "x.y", none, false, .locator⟩ }

theorem run_unfilledSecond_nodup :
    ∃ result, (run numberedPlan rehearsal anyObjective 0).value = .ok (.ok result) ∧
      result.generation.outputs.length = 3 ∧
      (result.compilations.map fun compilation => compilation.artifact.testFileName) =
        [("test_x_1_y_50d66ffe.py" : Text), ("test_x_3_y_50f6505b.py" : Text)] ∧
      (result.compilations.map fun compilation => compilation.artifact.testFileName).Nodup := by
  have hcomputed : ((run numberedPlan rehearsal anyObjective
      0).value.toOption.bind Except.toOption).map (fun result =>
        (result.generation.outputs.length,
          result.compilations.map fun compilation => compilation.artifact.testFileName)) =
            some (3, [("test_x_1_y_50d66ffe.py" : Text), ("test_x_3_y_50f6505b.py" : Text)]) := by
    decide +kernel
  obtain ⟨result, hvalue, hfound⟩ := exists_result_of_map_eq_some hcomputed
  obtain ⟨hcount, hfiles⟩ := Prod.mk.inj hfound
  have hfile : numberedPlan.options.fileName? = some "x.y" := rfl
  obtain ⟨hnodup, -⟩ := run_testFileNames_nodup hvalue hfile (by decide) (by omega)
  exact ⟨result, hvalue, hcount, hfiles, hnodup⟩

end Run

end PageScript
