import PageScript.Proofs.NumberedFiles
import PageScript.Proofs.RunContainment

namespace PageScript

namespace Suite

variable {options other : Options} {scenario v w : Scenario} {outcomes later : List Outcome}
  {artifact first second : Artifact} {file : Text}

/-- The names of the files of a suite. -/
def Artifact.fileNames (artifact : Artifact) : List Text := artifact.files.map Prod.fst

/-- Whether some uses of elements in a scenario are made methods of a page object. -/
def HasPageObject (options : Options) (scenario : Scenario) : Prop :=
  options.pageObjects = true ∧ Method.ofSteps scenario.steps ≠ []

instance (options : Options) (scenario : Scenario) : Decidable (HasPageObject options scenario) :=
  inferInstanceAs (Decidable (_ ∧ _))

/-- The file of the page object of a scenario, if it has one. -/
def pageFileNameOf (scenario : Scenario) : Text :=
  Name.uniqueModuleName scenario.name ++ "_page" ++ Name.fileSuffix

theorem testFileName_eq (hartifact : compile scenario options outcomes = .ok artifact) :
    artifact.testFileName = testFileNameOf options scenario := by
  obtain ⟨-, rfl⟩ := compile_eq_ok_iff.mp hartifact
  rfl

theorem testFileNameOf_of_none (hfile : Text.nonempty? options.fileName? = none) (v : Scenario) :
    testFileNameOf options v = "test_" ++ Name.uniqueModuleName v.name ++ Name.fileSuffix := by
  have hempty : options.fileName?.getD "" = "" := by
    cases hname : options.fileName? with
    | none => rfl
    | some name =>
        rw [hname] at hfile
        have hnil := Option.filter_eq_none_iff.mp hfile name rfl
        exact List.isEmpty_iff.mp (by simpa using hnil)
  rw [testFileNameOf, hempty]
  rfl

theorem fileNames_eq (hartifact : compile scenario options outcomes = .ok artifact) :
    artifact.fileNames =
      (if HasPageObject options scenario then [pageFileNameOf scenario] else []) ++
        [testFileNameOf options scenario] := by
  obtain ⟨-, rfl⟩ := compile_eq_ok_iff.mp hartifact
  have hfiles : (ofScenario scenario options outcomes).artifact.fileNames =
      ((ofScenario scenario options outcomes).pageObject?.map fun object =>
        object.moduleName ++ Name.fileSuffix).toList ++ [testFileNameOf options scenario] := by
    unfold Artifact.fileNames Artifact.files Compiled.artifact
    rw [List.map_append, List.map_map]
    cases (ofScenario scenario options outcomes).pageObject? <;> rfl
  have hobject : (ofScenario scenario options outcomes).pageObject?.map
      (fun object => object.moduleName ++ Name.fileSuffix) =
        if HasPageObject options scenario then some (pageFileNameOf scenario) else none := by
    change Option.map _ (if options.pageObjects then PageObject.ofScenario? scenario else none) = _
    unfold PageObject.ofScenario?
    by_cases hemits : options.pageObjects = true
    · cases hmethods : Method.ofSteps scenario.steps <;>
        simp [HasPageObject, hemits, hmethods, pageFileNameOf]
    · simp [HasPageObject, hemits]
  rw [hfiles, hobject]
  split <;> rfl

theorem mem_fileNames_iff (hartifact : compile scenario options outcomes = .ok artifact) :
    file ∈ artifact.fileNames ↔
      (HasPageObject options scenario ∧ file = pageFileNameOf scenario) ∨
        file = testFileNameOf options scenario := by
  rw [fileNames_eq hartifact, List.mem_append, List.mem_singleton]
  by_cases hhas : HasPageObject options scenario
  · rw [if_pos hhas, List.mem_singleton, and_iff_right hhas]
  · rw [if_neg hhas]
    simp [hhas]

theorem not_disjoint_fileNames_iff (hfirst : compile v options outcomes = .ok first)
    (hsecond : compile w other later = .ok second) :
    ¬ first.fileNames.Disjoint second.fileNames ↔
      (HasPageObject options v ∧ HasPageObject other w ∧ pageFileNameOf v = pageFileNameOf w) ∨
      (HasPageObject options v ∧ pageFileNameOf v = testFileNameOf other w) ∨
      (HasPageObject other w ∧ testFileNameOf options v = pageFileNameOf w) ∨
      testFileNameOf options v = testFileNameOf other w := by
  rw [List.disjoint_left]
  push Not
  simp only [mem_fileNames_iff hfirst, mem_fileNames_iff hsecond]
  constructor
  · rintro ⟨file, ⟨hv, rfl⟩ | rfl, ⟨hw, hfile⟩ | hfile⟩
    · exact .inl ⟨hv, hw, hfile⟩
    · exact .inr (.inl ⟨hv, hfile⟩)
    · exact .inr (.inr (.inl ⟨hw, hfile⟩))
    · exact .inr (.inr (.inr hfile))
  · rintro (⟨hv, hw, hfile⟩ | ⟨hv, hfile⟩ | ⟨hw, hfile⟩ | hfile)
    · exact ⟨_, .inl ⟨hv, rfl⟩, .inl ⟨hw, hfile⟩⟩
    · exact ⟨_, .inl ⟨hv, rfl⟩, .inr hfile⟩
    · exact ⟨_, .inr rfl, .inl ⟨hw, hfile⟩⟩
    · exact ⟨_, .inr rfl, .inr hfile⟩

theorem pageFileNameOf_eq_iff :
    pageFileNameOf v = pageFileNameOf w ↔ Name.AreNamedAlike v.name w.name := by
  rw [← Name.uniqueModuleName_eq_iff, pageFileNameOf, pageFileNameOf, List.append_assoc,
    List.append_assoc, List.append_left_inj]

end Suite

namespace Run

open Routine
open Suite (HasPageObject)

variable {σ η : Type} {plan : Plan σ η} {occasion : Occasion} {objective : Objective}
  {runId : Text} {s t : σ} {result : Result}

/-- How scenarios of one run come to be written to one file.  A file name that is
given for the run keeps their tests apart from all other files, but not their page
objects from one another. -/
inductive SharesFile (options : Suite.Options) (v w : Scenario) : Prop where
  | pageObjects (hv : HasPageObject options v) (hw : HasPageObject options w)
      (hnames : Name.AreNamedAlike v.name w.name)
  | tests (hfile : Text.nonempty? options.fileName? = none)
      (hnames : Name.AreNamedAlike v.name w.name)
  | pageObjectAndTest (hfile : Text.nonempty? options.fileName? = none)
      (hv : HasPageObject options v)
      (hnames : Name.uniqueModuleName v.name ++ "_page" = "test_" ++ Name.uniqueModuleName w.name)
  | testAndPageObject (hfile : Text.nonempty? options.fileName? = none)
      (hw : HasPageObject options w)
      (hnames : "test_" ++ Name.uniqueModuleName v.name = Name.uniqueModuleName w.name ++ "_page")

theorem hasPageObject_optionsFor_iff {options : Suite.Options} {i total : Nat} {v : Scenario} :
    HasPageObject (optionsFor options i total) v ↔ HasPageObject options v := by
  obtain ⟨fileName?, hsame⟩ := exists_optionsFor_eq options i total
  rw [hsame]
  rfl

theorem testFileNameOf_optionsFor_of_none {options : Suite.Options}
    (hfile : Text.nonempty? options.fileName? = none) (i total : Nat) (v : Scenario) :
    Suite.testFileNameOf (optionsFor options i total) v =
      "test_" ++ Name.uniqueModuleName v.name ++ Name.fileSuffix := by
  unfold optionsFor
  rw [hfile]
  exact Suite.testFileNameOf_of_none hfile v

theorem testFileNameOf_optionsFor_of_some {options : Suite.Options} {name : Text}
    (hfile : Text.nonempty? options.fileName? = some name) (i : Nat) {total : Nat}
    (htotal : 2 ≤ total) (v : Scenario) :
    ∃ fallback, Suite.testFileNameOf (optionsFor options i total) v =
      Name.fileName (numberedName name (i + 1)) fallback := by
  refine ⟨"test_" ++ Name.uniqueModuleName v.name ++ ".py", ?_⟩
  unfold Suite.testFileNameOf optionsFor
  rw [hfile]
  simp only [if_neg (Nat.not_lt.mpr htotal)]
  rfl

/-- Compiled scenarios at two places of a run have no file in common but in the cases
of `SharesFile`. -/
theorem disjoint_fileNames_iff {options : Suite.Options} {i j total : Nat} (hij : i ≠ j)
    (htotal : 2 ≤ total) {v w : Scenario} {outcomes later : List Outcome}
    {first second : Suite.Artifact}
    (hfirst : Suite.compile v (optionsFor options i total) outcomes = .ok first)
    (hsecond : Suite.compile w (optionsFor options j total) later = .ok second) :
    first.fileNames.Disjoint second.fileNames ↔ ¬ SharesFile options v w := by
  rw [iff_not_comm, Iff.comm, Suite.not_disjoint_fileNames_iff hfirst hsecond,
    hasPageObject_optionsFor_iff, hasPageObject_optionsFor_iff, Suite.pageFileNameOf_eq_iff]
  cases hfile : Text.nonempty? options.fileName? with
  | none =>
      rw [testFileNameOf_optionsFor_of_none hfile, testFileNameOf_optionsFor_of_none hfile,
        Suite.pageFileNameOf, Suite.pageFileNameOf, List.append_left_inj, List.append_left_inj,
        List.append_left_inj, List.append_right_inj, Name.uniqueModuleName_eq_iff]
      constructor
      · rintro (⟨hv, hw, hnames⟩ | ⟨hv, hnames⟩ | ⟨hw, hnames⟩ | hnames)
        · exact .pageObjects hv hw hnames
        · exact .pageObjectAndTest hfile hv hnames
        · exact .testAndPageObject hfile hw hnames
        · exact .tests hfile hnames
      · rintro (⟨hv, hw, hnames⟩ | ⟨-, hnames⟩ | ⟨-, hv, hnames⟩ | ⟨-, hw, hnames⟩)
        · exact .inl ⟨hv, hw, hnames⟩
        · exact .inr (.inr (.inr hnames))
        · exact .inr (.inl ⟨hv, hnames⟩)
        · exact .inr (.inr (.inl ⟨hw, hnames⟩))
  | some name =>
      obtain ⟨fallback, htest⟩ := testFileNameOf_optionsFor_of_some hfile i htotal v
      obtain ⟨fallback', htest'⟩ := testFileNameOf_optionsFor_of_some hfile j htotal w
      have hgiven : Text.nonempty? options.fileName? ≠ none := by
        rw [hfile]
        exact nofun
      rw [htest, htest']
      constructor
      · rintro (⟨hv, hw, hnames⟩ | ⟨-, hnames⟩ | ⟨-, hnames⟩ | hnames)
        · exact .pageObjects hv hw hnames
        · exact absurd hnames.symm (fileName_numberedName_ne_page name (j + 1) fallback' _)
        · exact absurd hnames (fileName_numberedName_ne_page name (i + 1) fallback _)
        · exact absurd (Nat.succ.inj (eq_of_fileName_numberedName_eq hnames)) hij
      · rintro (⟨hv, hw, hnames⟩ | ⟨hnone, -⟩ | ⟨hnone, -, -⟩ | ⟨hnone, -, -⟩)
        · exact .inl ⟨hv, hw, hnames⟩
        all_goals exact absurd hnone hgiven

theorem compilations_prefix_of_compileAll {total index : Nat} {outputs : List Output}
    {compilations : List Compilation} {errors : List StageError}
    (h : (compileAll plan runId total index outputs s).result =
      .ok (.ok (compilations, errors), t)) :
    compilations <+: (outputs.zipIdx index).filterMap fun (output, i) =>
      compilation? plan runId total i output := by
  induction outputs generalizing index s compilations errors with
  | nil =>
      obtain ⟨rfl, -⟩ := Prod.mk.inj (Except.ok.inj (Prod.mk.inj (Except.ok.inj h)).1)
      exact List.nil_prefix
  | cons output rest ih =>
      rcases compileAll_cons_cases h with hended | ⟨problem, hended⟩ | ⟨later, -, hrest, hended⟩
      · obtain ⟨rfl, -⟩ := Prod.mk.inj (Except.ok.inj hended)
        exact List.nil_prefix
      · exact absurd hended (by simp)
      · cases later with
        | error problem => exact absurd hended (by simp [Except.map])
        | ok found =>
            obtain ⟨rfl, -⟩ := Prod.mk.inj (Except.ok.inj hended)
            have hlater := ih hrest
            rw [List.zipIdx_cons]
            cases hfound : compilation? plan runId total index output with
            | none => simpa [hfound] using hlater
            | some compilation => simpa [hfound] using hlater

/-- A run that has a result has compiled outputs that it holds. -/
theorem compilations_prefix_of_run
    (h : (run plan occasion objective s).value = .ok (.ok result)) :
    result.compilations <+:
      result.generation.outputs.zipIdx.filterMap fun (output, i) =>
        compilation? plan occasion.runId result.generation.outputs.length i output := by
  obtain ⟨_, _, validated, middle, compilations, errors, _, -, -, hcompiled, rfl⟩ :=
    exists_of_run_eq_ok h
  unfold compileValidated at hcompiled
  split at hcompiled
  · obtain ⟨hnone, -⟩ := Prod.mk.inj (Except.ok.inj hcompiled)
    obtain ⟨rfl, -⟩ := Prod.mk.inj (Except.ok.inj hnone)
    exact List.nil_prefix
  · exact compilations_prefix_of_compileAll hcompiled

theorem exists_output_of_mem_compilations {compilation : Compilation}
    (h : (run plan occasion objective s).value = .ok (.ok result))
    (hmem : compilation ∈ result.compilations) :
    ∃ i output, result.generation.outputs[i]? = some output ∧
      compilation? plan occasion.runId result.generation.outputs.length i output =
        some compilation := by
  obtain ⟨⟨output, i⟩, hplace, hfound⟩ :=
    List.mem_filterMap.mp ((compilations_prefix_of_run h).subset hmem)
  exact ⟨i, output, List.mk_mem_zipIdx_iff_getElem?.mp hplace, hfound⟩

theorem pairwise_filterMap_zipIdx {α β : Type} {f : α × Nat → Option β} {R : β → β → Prop}
    {items : List α}
    (hR : ∀ i j a b x y, i < j → items[i]? = some a → items[j]? = some b → f (a, i) = some x →
      f (b, j) = some y → R x y) : (items.zipIdx.filterMap f).Pairwise R := by
  have hplaces : items.zipIdx.Pairwise fun first second => first.2 < second.2 := by
    rw [List.pairwise_iff_getElem]
    intro i j hi hj hij
    simpa using hij
  refine List.pairwise_filterMap.mpr (hplaces.imp_of_mem ?_)
  rintro ⟨a, i⟩ ⟨b, j⟩ ha hb hij x hx y hy
  exact hR i j a b x y hij (List.mk_mem_zipIdx_iff_getElem?.mp ha)
    (List.mk_mem_zipIdx_iff_getElem?.mp hb) hx hy

theorem compile_of_compilation? {total i : Nat} {output : Output} {compilation : Compilation}
    (h : compilation? plan runId total i output = some compilation) :
    Suite.compile output.scenario (optionsFor plan.options i total) output.outcomes =
      .ok compilation.artifact := by
  unfold compilation? at h
  split at h
  · rename_i artifact hartifact
    obtain rfl := Option.some.inj h
    exact hartifact
  · exact absurd h nofun

/-- What holds of the compilations of outputs at two places, the first one before the second, holds
of every two compilations of a run. -/
theorem pairwise_compilations_of_run {R : Compilation → Compilation → Prop}
    (h : (run plan occasion objective s).value = .ok (.ok result))
    (hR : ∀ i j v w first second, i < j →
      result.generation.outputs[i]? = some v → result.generation.outputs[j]? = some w →
      compilation? plan occasion.runId result.generation.outputs.length i v = some first →
      compilation? plan occasion.runId result.generation.outputs.length j w = some second →
      R first second) : result.compilations.Pairwise R := by
  exact (pairwise_filterMap_zipIdx hR).sublist (compilations_prefix_of_run h).sublist

/-- Two compilations of a run are of outputs at two places, and no file is written for
both of them but in the cases of `SharesFile`. -/
theorem run_compilations_disjoint_iff
    (h : (run plan occasion objective s).value = .ok (.ok result)) :
    result.compilations.Pairwise fun first second => ∃ (i j : Nat) (v w : Output), i < j ∧
      result.generation.outputs[i]? = some v ∧ result.generation.outputs[j]? = some w ∧
      compilation? plan occasion.runId result.generation.outputs.length i v = some first ∧
      compilation? plan occasion.runId result.generation.outputs.length j w = some second ∧
      (first.artifact.fileNames.Disjoint second.artifact.fileNames ↔
        ¬ SharesFile plan.options v.scenario w.scenario) := by
  apply pairwise_compilations_of_run h
  intro i j v w first second hij hv hw hfirst hsecond
  have hlength : j < result.generation.outputs.length := (List.getElem?_eq_some_iff.mp hw).1
  refine ⟨i, j, v, w, hij, hv, hw, hfirst, hsecond, ?_⟩
  exact disjoint_fileNames_iff (Nat.ne_of_lt hij) (by omega) (compile_of_compilation? hfirst)
    (compile_of_compilation? hsecond)

theorem exists_result_of_map_eq_some {α : Type} {value : Except Fault (Except Error Result)}
    {f : Result → α} {a : α} (h : (value.toOption.bind Except.toOption).map f = some a) :
    ∃ result, value = .ok (.ok result) ∧ f result = a := by
  rcases value with fault | error | result
  · exact absurd h nofun
  · exact absurd h nofun
  · exact ⟨result, rfl, Option.some.inj h⟩

theorem run_twoScenarios_disjoint :
    ∃ result, (run (onePagePlan twoScenariosReply) rehearsal anyObjective 0).value =
        .ok (.ok result) ∧
      result.compilations.length = 2 ∧
      result.compilations.Pairwise fun first second =>
        first.artifact.fileNames.Disjoint second.artifact.fileNames := by
  have hcomputed : ((run (onePagePlan twoScenariosReply) rehearsal anyObjective
      0).value.toOption.bind Except.toOption).map (fun result => (result.compilations.length,
        result.generation.outputs.map fun output => output.scenario.name)) =
          some (2, [("a" : Text), ("b" : Text)]) := by
    decide +kernel
  obtain ⟨result, hvalue, hfound⟩ := exists_result_of_map_eq_some hcomputed
  obtain ⟨hcount, hnames⟩ := Prod.mk.inj hfound
  refine ⟨result, hvalue, hcount, (run_compilations_disjoint_iff hvalue).imp ?_⟩
  rintro first second ⟨i, j, v, w, hij, hv, hw, -, -, hdisjoint⟩
  have hname {k : Nat} {output : Output} (houtput : result.generation.outputs[k]? = some output) :
      [("a" : Text), ("b" : Text)][k]? = some output.scenario.name := by
    rw [← hnames, List.getElem?_map, houtput]
    rfl
  have hj : j < 2 := (List.getElem?_eq_some_iff.mp (hname hw)).1
  obtain ⟨rfl, rfl⟩ : i = 0 ∧ j = 1 := by omega
  have hvname : ("a" : Text) = v.scenario.name := Option.some.inj (hname hv)
  have hwname : ("b" : Text) = w.scenario.name := Option.some.inj (hname hw)
  have hdiffer : ¬ Name.AreNamedAlike v.scenario.name w.scenario.name := by
    rw [← hvname, ← hwname, ← Name.uniqueModuleName_eq_iff]
    decide
  refine hdisjoint.mpr ?_
  -- There are no page objects.
  rintro (⟨⟨hemits, -⟩, -, -⟩ | ⟨-, hnames⟩ | ⟨-, ⟨hemits, -⟩, -⟩ | ⟨-, ⟨hemits, -⟩, -⟩)
  · exact absurd hemits nofun
  · exact hdiffer hnames
  · exact absurd hemits nofun
  · exact absurd hemits nofun

/-- A reply with two scenarios of one name. -/
def equalNamesReply : Text :=
  "[\x7b\"name\":\"login\",\"steps\":[]\x7d,\x7b\"name\":\"login\",\"steps\":[]\x7d]"

/-- Scenarios of one name are written to one file. -/
theorem run_equalNames_sharesFile :
    ∃ result, (run (onePagePlan equalNamesReply) rehearsal anyObjective 0).value =
        .ok (.ok result) ∧
      result.compilations.map (fun compilation => compilation.artifact.fileNames) =
        [[("test_login.py" : Text)], [("test_login.py" : Text)]] :=
  exists_result_of_map_eq_some (by decide +kernel)

end Run

end PageScript
