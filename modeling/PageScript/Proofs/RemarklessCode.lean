import PageScript.Proofs.CompileErrors
import PageScript.Proofs.SuiteLayout
/-!
What remarks do not change.  Descriptions, tags and the outcomes of a validation get into a
suite as remarks alone: without its remarks, a test is the same whatever they say, and so is
all that is told when a scenario is not compiled.
-/

namespace PageScript

def Step.bare (step : Step) : Step := { step with description := "" }

/-- The scenario without what is only remarked of it. -/
def Scenario.bare (scenario : Scenario) : Scenario :=
  { scenario with description? := none, tags := [], steps := scenario.steps.map Step.bare }

theorem placesFrom_map {α β : Type} (f : α → β) (p : β → Bool) (i : Nat) (items : List α) :
    placesFrom p i (items.map f) = placesFrom (p ∘ f) i items := by
  induction items generalizing i with
  | nil => rfl
  | cons item items ih => simp only [List.map_cons, placesFrom, ih, Function.comp_apply]

theorem Scenario.stepsLackingData_bare (scenario : Scenario) :
    scenario.bare.stepsLackingData = scenario.stepsLackingData :=
  placesFrom_map Step.bare Step.lacksData 0 scenario.steps

namespace Suite

theorem Uses.ofSteps_map_bare (steps : List Step) :
    Uses.ofSteps (steps.map Step.bare) = Uses.ofSteps steps := by
  rw [ofSteps, List.filter_map, List.foldl_map]
  rfl

theorem Method.ofSteps_map_bare (steps : List Step) :
    ofSteps (steps.map Step.bare) = ofSteps steps := by
  rw [ofSteps, Uses.ofSteps_map_bare]
  rfl

theorem objectWritten?_bare (scenario : Scenario) (options : Options) :
    objectWritten? scenario.bare options = objectWritten? scenario options := by
  have hobject : PageObject.ofScenario? scenario.bare = PageObject.ofScenario? scenario := by
    have hmethods : Method.ofSteps scenario.bare.steps = Method.ofSteps scenario.steps :=
      Method.ofSteps_map_bare scenario.steps
    unfold PageObject.ofScenario?
    rw [hmethods]
    rfl
  rw [objectWritten?, hobject]
  rfl

theorem compileError?_bare (scenario : Scenario) (options : Options) :
    compileError? scenario.bare options = compileError? scenario options := by
  have hpauses : scenario.bare.steps.findSome? excessDigits? =
      scenario.steps.findSome? excessDigits? := List.findSome?_map
  unfold compileError?
  rw [Scenario.stepsLackingData_bare, hpauses]
  rfl

namespace Line

def isCode : Line → Bool
  | .remark _ _ => false
  | .empty | .code _ _ => true

end Line

def withoutRemarks (source : Text) : List Text :=
  (linesOf source).filter fun line => !isRemark line

theorem IsSuiteLine.isRemark_text {scenario : Scenario} {line : Line}
    (hline : IsSuiteLine scenario line) : isRemark line.text = !line.isCode := by
  cases line with
  | empty => rfl
  | remark indent text => exact isRemark_text_remark indent text
  | code indent code =>
      obtain ⟨names, hnames, htidy⟩ := hline.exists_isTidy
      exact htidy.written_code.isRemark_eq_false hnames

theorem filter_map_text {scenario : Scenario} {lines : List Line}
    (hlines : ∀ line ∈ lines, IsSuiteLine scenario line) :
    (lines.map Line.text).filter (fun line => !isRemark line) =
      (lines.filter Line.isCode).map Line.text := by
  rw [List.filter_map]
  congr 1
  refine List.filter_congr fun line hline => ?_
  rw [Function.comp_apply, (hlines line hline).isRemark_text, Bool.not_not]

/-- The lines of a test that are no remarks: its imports, the signature of its function, and
a line for each statement. -/
def codeLines (function : Text) (pageObject? : Option (Text × Text)) (statements : List Statement) :
    List Line :=
  let object := (pageObject?.map Prod.fst).getD ""
  let imports (names : Text × Text) : List Line :=
    [.empty, .code 0 ("from " ++ names.1 ++ " import " ++ names.2)]
  let binding (names : Text × Text) : List Line :=
    [.code 4 (names.1 ++ " = " ++ names.2 ++ "(page)")]
  [.imports] ++ pageObject?.toList.flatMap imports ++
  [.empty, .empty, .code 0 ("def test_" ++ function ++ "(page: Page):")] ++
  pageObject?.toList.flatMap binding ++
  if statements.isEmpty then [.code 4 "pass"]
  else statements.map fun statement => .code 4 (statement.code object)

theorem Block.filter_isCode_lines (object : Text) (block : Block) :
    (block.lines object).filter Line.isCode = [.code 4 (block.statement.code object)] := by
  have hwarnings : (block.warnings.map (Line.note 4 "WARNING: ")).filter Line.isCode = [] := by
    simp [Line.isCode, Line.note]
  rw [lines, List.cons_append, List.filter_cons_of_neg (by simp [Line.isCode, Line.note]),
    List.filter_append, hwarnings]
  rfl

theorem TestModule.filter_isCode_lines (test : TestModule) :
    test.lines.filter Line.isCode =
      codeLines test.function test.pageObject? (test.blocks.map Block.statement) := by
  have hpreamble : test.preamble.filter Line.isCode = [Line.imports] ++
      (test.pageObject?.toList.flatMap fun names =>
        [Line.empty, Line.code 0 ("from " ++ names.1 ++ " import " ++ names.2)]) ++
          [Line.empty, Line.empty] := by
    unfold preamble
    cases test.tags.isEmpty <;> cases test.pageObject? <;> rfl
  have hopening : test.opening.filter Line.isCode =
      [Line.code 0 ("def test_" ++ test.function ++ "(page: Page):")] ++
      test.pageObject?.toList.flatMap fun names =>
        [Line.code 4 (names.1 ++ " = " ++ names.2 ++ "(page)")] := by
    unfold opening
    by_cases hnone : test.description = "" <;> cases test.pageObject? <;>
      simp only [hnone, if_true, if_false] <;> rfl
  have hbody : test.body.filter Line.isCode =
      if test.blocks.isEmpty then [Line.code 4 "pass"]
      else test.blocks.map fun block =>
        Line.code 4 (block.statement.code ((test.pageObject?.map Prod.fst).getD "")) := by
    unfold body
    split
    · rfl
    · rw [List.filter_flatMap]
      simp only [Block.filter_isCode_lines]
      exact List.map_eq_flatMap.symm
  rw [lines, List.filter_append, List.filter_append, hpreamble, hopening, hbody, codeLines]
  simp only [List.append_assoc, List.isEmpty_map, List.map_map]
  rfl

section Bare

variable (scenario : Scenario) (options : Options) (outcomes : List Outcome)

theorem map_statement_blocks :
    (ofScenario scenario options outcomes).test.blocks.map Block.statement =
      scenario.steps.map (Statement.ofStep options.style
        (((objectWritten? scenario options).map PageObject.methods).getD [])) := by
  have hsteps : scenario.steps.zipIdx.map Prod.fst = scenario.steps := List.zipIdx_map_fst 0 _
  conv_rhs => rw [← hsteps]
  rw [blocks_test, List.map_map, List.map_map]
  rfl

/-- Without its remarks, a test is told by the name of its scenario and by the actions, the
targets and the data of the steps. -/
theorem withoutRemarks_testSource :
    withoutRemarks (ofScenario scenario options outcomes).artifact.testSource =
      (codeLines (Name.moduleName scenario.name)
        ((objectWritten? scenario options).map fun object => (object.moduleName, object.className))
        (scenario.steps.map (Statement.ofStep options.style
          (((objectWritten? scenario options).map PageObject.methods).getD [])))).map Line.text ++
      [[]] := by
  have hlines := isSuiteLine_test scenario options outcomes
  have hfile := linesOf_file (isOneLine_test scenario options outcomes)
  have hlast : ([[]] : List Text).filter (fun line => !isRemark line) = [[]] := rfl
  change (linesOf (Line.file (ofScenario scenario options outcomes).test.lines)).filter _ = _
  rw [hfile, List.filter_append, hlast, filter_map_text hlines, TestModule.filter_isCode_lines,
    map_statement_blocks]
  rfl

/-- What two suites have in common that differ in remarks on their tests alone. -/
structure Artifact.SameCode (artifact other : Artifact) : Prop where
  testFileName : artifact.testFileName = other.testFileName
  suiteId : artifact.suiteId = other.suiteId
  pageObjects : artifact.pageObjects = other.pageObjects
  testSource : withoutRemarks artifact.testSource = withoutRemarks other.testSource

theorem Artifact.SameCode.symm {artifact other : Artifact} (h : artifact.SameCode other) :
    other.SameCode artifact :=
  ⟨h.testFileName.symm, h.suiteId.symm, h.pageObjects.symm, h.testSource.symm⟩

theorem Artifact.SameCode.trans {first second third : Artifact} (h : first.SameCode second)
    (h' : second.SameCode third) : first.SameCode third :=
  ⟨h.testFileName.trans h'.testFileName, h.suiteId.trans h'.suiteId,
    h.pageObjects.trans h'.pageObjects, h.testSource.trans h'.testSource⟩

theorem sameCode_bare :
    (ofScenario scenario options outcomes).artifact.SameCode
      (ofScenario scenario.bare options []).artifact := by
  have hobject := objectWritten?_bare scenario options
  refine ⟨rfl, rfl, ?_, ?_⟩
  · change ((objectWritten? scenario options).map _).toList =
      ((objectWritten? scenario.bare options).map _).toList
    rw [hobject]
    rfl
  · have hsteps (methods : List Method) :
        scenario.bare.steps.map (Statement.ofStep options.style methods) =
          scenario.steps.map (Statement.ofStep options.style methods) := by
      rw [Scenario.bare, List.map_map]
      rfl
    rw [withoutRemarks_testSource, withoutRemarks_testSource, hobject, hsteps]
    rfl

end Bare

/-- Scenarios that differ in remarks alone are compiled with the same names, the same page
objects and the same code, whatever their outcomes are, or both fail in the same way.  It is
for missing data that they fail, unless no step lacks any and either a name cannot be made or a
pause has more digits than are read. -/
theorem compile_same_code {scenario other : Scenario} (hbare : scenario.bare = other.bare)
    (options : Options) (outcomes otherOutcomes : List Outcome) :
    ((∃ error, compile scenario options outcomes = .error error ∧
        compile other options otherOutcomes = .error error) ∨
      ∃ artifact otherArtifact, compile scenario options outcomes = .ok artifact ∧
        compile other options otherOutcomes = .ok otherArtifact ∧
        artifact.SameCode otherArtifact) ∧
    (((∃ name places, compile scenario options outcomes = .error (.lacksData name places) ∧
        compile other options otherOutcomes = .error (.lacksData name places)) ∨
      ∃ artifact otherArtifact, compile scenario options outcomes = .ok artifact ∧
        compile other options otherOutcomes = .ok otherArtifact ∧
        artifact.SameCode otherArtifact) ↔
      scenario.stepsLackingData ≠ [] ∨ HasNames scenario options ∧
        ∀ step ∈ scenario.steps, step.action = .wait →
          ∀ digits, step.targetDigits? = some digits → digits.length ≤ 4300) := by
  have herrors : compileError? other options = compileError? scenario options := by
    rw [← compileError?_bare other, ← hbare, compileError?_bare]
  have hsame : compileError? scenario options = none →
      ∃ artifact otherArtifact, compile scenario options outcomes = .ok artifact ∧
        compile other options otherOutcomes = .ok otherArtifact ∧
        artifact.SameCode otherArtifact := by
    intro hnone
    -- Both are compiled like the scenario without remarks that they have in common.
    have hcode := sameCode_bare scenario options outcomes
    have hcodes := sameCode_bare other options otherOutcomes
    rw [← hbare] at hcodes
    exact ⟨_, _, compile_eq_ok_iff.mpr ⟨hnone, rfl⟩,
      compile_eq_ok_iff.mpr ⟨herrors.trans hnone, rfl⟩, hcode.trans hcodes.symm⟩
  have hfail (error : CompileError) (herror : compileError? scenario options = some error) :
      compile scenario options outcomes = .error error ∧
        compile other options otherOutcomes = .error error :=
    ⟨compile_eq_error_iff.mpr herror, compile_eq_error_iff.mpr (herrors.trans herror)⟩
  constructor
  · cases hcase : compileError? scenario options with
    | some error => exact .inl ⟨error, hfail error hcase⟩
    | none => exact .inr (hsame hcase)
  · have hnone := @compileError?_eq_none_iff scenario options
    simp only [List.findSome?_eq_none_iff, excessDigits?_eq_none_iff] at hnone
    constructor
    · rintro (⟨name, places, hlacks, -⟩ | ⟨artifact, -, hok, -⟩)
      · obtain ⟨hplaces, -, rfl⟩ :=
          compileError?_eq_lacksData_iff.mp (compile_eq_error_iff.mp hlacks)
        exact .inl hplaces
      · exact .inr (hnone.mp (compile_eq_ok_iff.mp hok).1).2
    · intro h
      by_cases hlacking : scenario.stepsLackingData = []
      · exact .inr (hsame (hnone.mpr ⟨hlacking, h.resolve_left (not_not_intro hlacking)⟩))
      · exact .inl ⟨_, _, hfail _ (compileError?_eq_lacksData_iff.mpr ⟨hlacking, rfl, rfl⟩)⟩

/-- The scenario with a description, tags, and a reason for each step. -/
def remarkedScenario : Scenario :=
  { searchScenario with
    description? := some "first\nsecond"
    tags := ["# slow", "page.goto(\"/\")"]
    steps := searchScenario.steps.map fun step => { step with description := "why\r\nnot" } }

theorem compile_remarkedScenario_same_code :
    ∃ artifact otherArtifact, compile searchScenario .standard [] = .ok artifact ∧
      compile remarkedScenario .standard unrulyOutcomes = .ok otherArtifact ∧
      artifact.SameCode otherArtifact := by
  have hok : compile searchScenario .standard [] =
      .ok (ofScenario searchScenario .standard []).artifact := by rfl
  obtain ⟨⟨error, herror, -⟩ | hsame, -⟩ := compile_same_code
    (by decide : searchScenario.bare = remarkedScenario.bare) .standard [] unrulyOutcomes
  · exact absurd (hok.symm.trans herror) nofun
  · exact hsame

/-- Two scenarios with a pause that is too long, of which one has a description, fail in the
same way, but not for missing data. -/
theorem compile_longPauseScenario_same_error :
    let other := { longPauseScenario with description? := some "a long pause" }
    let options := { Options.standard with pageObjects := false }
    longPauseScenario.bare = other.bare ∧
      compile longPauseScenario options [] = .error (.pauseTooLong 4301) ∧
      compile other options [] = .error (.pauseTooLong 4301) :=
  ⟨rfl, compile_eq_error_iff.mpr (by decide +kernel), compile_eq_error_iff.mpr (by decide +kernel)⟩

end Suite

end PageScript
