import PageScript.Proofs.FactoredSuite

namespace PageScript.Suite

def objectWritten? (scenario : Scenario) (options : Options) : Option PageObject :=
  if options.pageObjects then PageObject.ofScenario? scenario else none

/-- The lines of a test down to the function: what it is, and what it imports. -/
def preambleLines (scenario : Scenario) (suiteId : Text) (object? : Option PageObject) :
    List Text :=
  let beginning : List Text :=
    ["# Generated by scenarioforge. Do not edit by hand.",
     "# Suite: " ++ Text.collapse suiteId,
     "# Scenario: " ++ Text.collapse scenario.name ++ " (" ++ Text.collapse scenario.id ++ ")"]
  let tags : List Text := ["# Tags: " ++ Text.collapse ((", " : Text).intercalate scenario.tags)]
  let imports : List Text := ["from playwright.sync_api import Page, expect"]
  let objectImports (object : PageObject) : List Text :=
    ["", "from " ++ object.moduleName ++ " import " ++ object.className]
  beginning ++ (if scenario.tags = [] then [] else tags) ++ imports ++
    object?.toList.flatMap objectImports ++ [[], []]

def openingLines (scenario : Scenario) (object? : Option PageObject) : List Text :=
  let description := scenario.description?.getD ""
  let signature : List Text := ["def test_" ++ Name.moduleName scenario.name ++ "(page: Page):"]
  let bindings (object : PageObject) : List Text :=
    ["    " ++ object.moduleName ++ " = " ++ object.className ++ "(page)"]
  signature ++ (if description = "" then [] else ["    # " ++ Text.collapse description]) ++
    object?.toList.flatMap bindings

/-- The lines for the step at a place: a remark on it, one on each warning, and its code. -/
def sectionLines (style : Style) (object? : Option PageObject) (outcomes : List Outcome)
    (index : Nat) (step : Step) : List Text :=
  ("    # Step " ++ toString (index + 1) ++ ": " ++ step.action.label ++ " " ++
    Text.collapse (if step.description = "" then step.target else step.description)) ::
  (Block.warningsFor index outcomes).map
    (fun warning => "    # WARNING: " ++ Text.collapse warning) ++
  ["    " ++ (Statement.ofStep style ((object?.map PageObject.methods).getD []) step).code
    ((object?.map PageObject.moduleName).getD "")]

/-- The lines of the test of a scenario, with the empty text behind the last of them. -/
def testLines (scenario : Scenario) (options : Options) (outcomes : List Outcome) (suiteId : Text) :
    List Text :=
  let object? := objectWritten? scenario options
  preambleLines scenario suiteId object? ++ openingLines scenario object? ++
  (if scenario.steps = [] then [("    pass" : Text)]
    else scenario.steps.zipIdx.flatMap fun (step, index) =>
      sectionLines options.style object? outcomes index step) ++
  [[]]

def PageObject.textLines (style : Style) (object : PageObject) : List Text :=
  let header : List Text :=
    ["# Generated by scenarioforge. Do not edit by hand.",
     "# Page object for scenario: " ++ Text.collapse object.scenarioName,
     "from playwright.sync_api import Page, expect",
     "",
     "",
     "class " ++ object.className ++ ":",
     "    def __init__(self, page: Page):",
     "        self.page = page"]
  header ++ (object.methods.flatMap fun method => (method.lines style).map Line.text) ++
  [[]]

theorem Method.length_lines (style : Style) (method : Method) :
    (method.lines style).length = if method.isMixed then 7 else 3 := by
  unfold lines
  cases method.isMixed <;> rfl

namespace Line

theorem text_header : header.text = "# Generated by scenarioforge. Do not edit by hand." := by
  decide +kernel

theorem text_imports : imports.text = "from playwright.sync_api import Page, expect" := rfl

theorem text_note_suite (id : Text) : (note 0 "Suite: " id).text = "# Suite: " ++ Text.collapse id :=
  rfl

theorem text_note_tags (tags : Text) : (note 0 "Tags: " tags).text = "# Tags: " ++ Text.collapse tags :=
  rfl

end Line

theorem PageObject.linesOf_source_eq {scenario : Scenario} {object : PageObject}
    (hobject : ofScenario? scenario = some object) (style : Style) :
    linesOf (SourceFile.ofPageObject style object).source = object.textLines style := by
  have hname : (Line.note 0 "Page object for scenario: " object.scenarioName).text =
      "# Page object for scenario: " ++ Text.collapse object.scenarioName := rfl
  have hinit : definitionOf "__init__" ++ initializer.parameters =
      "    def __init__(self, page: Page):" := by decide +kernel
  have hpage : Line.indentation 8 ++ "self.page = page" = "        self.page = page" := by
    decide +kernel
  rw [linesOf_source (isWritable_of_ofScenario? hobject).1, List.map_flatMap, head,
    Line.text_header, hname, Line.text_imports, hinit, hpage]
  rfl

theorem Block.map_text_lines (object : Text) (block : Block) :
    (block.lines object).map Line.text =
      ("    # Step " ++ toString block.number ++ ": " ++ block.action.label ++ " " ++
        Text.collapse block.remark) ::
      block.warnings.map (fun warning => "    # WARNING: " ++ Text.collapse warning) ++
      ["    " ++ block.statement.code object] := by
  rw [lines, List.map_append, List.map_cons, List.map_map]
  rfl

section Layout

variable (scenario : Scenario) (options : Options) (outcomes : List Outcome)

theorem pageObject?_test :
    (ofScenario scenario options outcomes).test.pageObject? =
      (objectWritten? scenario options).map fun object => (object.moduleName, object.className) :=
  rfl

theorem blocks_test :
    (ofScenario scenario options outcomes).test.blocks =
      scenario.steps.zipIdx.map fun (step, index) => Block.ofStep options.style
        (((objectWritten? scenario options).map PageObject.methods).getD []) outcomes index step :=
  rfl

theorem map_text_preamble :
    let test := (ofScenario scenario options outcomes).test
    test.preamble.map Line.text =
      preambleLines scenario test.suiteId (objectWritten? scenario options) := by
  intro test
  have htags : test.tags = scenario.tags := rfl
  have hscenario : (Line.remark 0 ("Scenario: " ++ Text.collapse test.scenarioName ++ " (" ++
      Text.collapse test.scenarioId ++ ")")).text = "# Scenario: " ++
        Text.collapse scenario.name ++ " (" ++ Text.collapse scenario.id ++ ")" := rfl
  have hempty : Line.empty.text = [] := rfl
  have hcode : ∀ code, (Line.code 0 code).text = code := fun _ => rfl
  rw [TestModule.preamble, preambleLines, pageObject?_test, htags]
  by_cases hnone : scenario.tags = [] <;> cases objectWritten? scenario options <;>
    simp only [List.isEmpty_iff, hnone, if_true, if_false, Option.map_none, Option.map_some,
      List.map_append, List.map_cons, List.map_nil, Line.text_header, Line.text_imports,
      Line.text_note_suite, Line.text_note_tags, hscenario, hempty, hcode, Option.toList_none,
      Option.toList_some, List.flatMap_cons, List.flatMap_nil, List.append_nil] <;>
    rfl

theorem map_text_opening :
    (ofScenario scenario options outcomes).test.opening.map Line.text =
      openingLines scenario (objectWritten? scenario options) := by
  have hdescription : (ofScenario scenario options outcomes).test.description =
      scenario.description?.getD "" := rfl
  rw [TestModule.opening, openingLines, pageObject?_test, hdescription]
  by_cases hnone : scenario.description?.getD "" = "" <;> cases objectWritten? scenario options <;>
    simp only [hnone, if_true, if_false, Option.map_none, Option.map_some] <;>
    rfl

theorem map_text_body :
    (ofScenario scenario options outcomes).test.body.map Line.text =
      if scenario.steps = [] then [("    pass" : Text)]
      else scenario.steps.zipIdx.flatMap fun (step, index) =>
        sectionLines options.style (objectWritten? scenario options) outcomes index step := by
  have hname : ((ofScenario scenario options outcomes).test.pageObject?.map Prod.fst).getD "" =
      ((objectWritten? scenario options).map PageObject.moduleName).getD "" := by
    rw [pageObject?_test, Option.map_map]
    rfl
  have hempty : (ofScenario scenario options outcomes).test.blocks.isEmpty =
      scenario.steps.isEmpty := by
    rw [blocks_test]
    cases scenario.steps <;> rfl
  rw [TestModule.body, hempty, hname, blocks_test]
  by_cases hsteps : scenario.steps = []
  · rw [if_pos hsteps, if_pos (by simp [hsteps])]
    rfl
  · rw [if_neg hsteps, if_neg (by simp [hsteps]), List.map_flatMap, List.flatMap_map]
    exact List.flatMap_congr fun item _ => Block.map_text_lines _ _

theorem linesOf_testSource :
    let artifact := (ofScenario scenario options outcomes).artifact
    linesOf artifact.testSource = testLines scenario options outcomes artifact.suiteId := by
  intro artifact
  have hlines := linesOf_file (isOneLine_test scenario options outcomes)
  refine hlines.trans ?_
  rw [TestModule.lines, List.map_append, List.map_append, map_text_preamble, map_text_opening,
    map_text_body]
  rfl

end Layout

/-- What a scenario and its outcomes say changes neither how many lines its files have nor
which of them are code.  Each line of a test is one of those in `testLines`, and each line of a
page object one of those in `textLines`; texts get into the code as literals or as names made
of them, and in no other way but that a pause is given its number. -/
theorem compile_lines {scenario : Scenario} {options : Options} {outcomes : List Outcome}
    {artifact : Artifact} (hartifact : compile scenario options outcomes = .ok artifact) :
    (∀ file ∈ artifact.files, .char '\r' ∉ file.2 ∧
      ∀ c ∈ file.2, Text.isBlank c = true → c = ' ' ∨ c = '\n') ∧
    linesOf artifact.testSource = testLines scenario options outcomes artifact.suiteId ∧
    artifact.pageObjects.map (fun file => linesOf file.source) =
      (objectWritten? scenario options).toList.map (PageObject.textLines options.style) ∧
    (∀ method ∈ Method.ofSteps scenario.steps,
      (method.lines options.style).length = (if method.isMixed then 7 else 3) ∧
      (method.isMixed = true ↔ .fill ∈ actionsOf scenario.steps method.use ∧
        .type ∈ actionsOf scenario.steps method.use)) ∧
    (∀ name ∈ generatedNames scenario, Name.IsSafeText name) ∧
    ∀ file ∈ artifact.files, ∀ line ∈ linesOf file.2,
      isRemark line = true ∨ Written (generatedNames scenario) line ∨
        ∃ step ∈ scenario.steps, ∃ milliseconds, step.pause? = some milliseconds ∧
          line = "    page.wait_for_timeout(" ++ toString milliseconds ++ ")" := by
  obtain ⟨-, rfl⟩ := compile_eq_ok_iff.mp hartifact
  refine ⟨fun file hfile => ?_, linesOf_testSource scenario options outcomes, ?_,
    fun method hmethod => ⟨method.length_lines options.style, Method.isMixed_iff hmethod⟩,
    isSafeText_of_mem_generatedNames, fun file hfile line hline => ?_⟩
  · obtain ⟨lines, hlines, hsuite⟩ := exists_lines_of_mem_files file hfile
    have hblank : ∀ c ∈ file.2, Text.isBlank c = true → c = ' ' ∨ c = '\n' := by
      rw [hlines]
      exact fun c => isBlank_cases_of_mem_file fun line hline => (hsuite line hline).isSpaced_text
    exact ⟨fun hreturn => absurd (hblank _ hreturn (by decide)) (by decide), hblank⟩
  · change ((objectWritten? scenario options).map _).toList.map _ = _
    cases hobject : objectWritten? scenario options with
    | none => rfl
    | some object =>
        have hfound : PageObject.ofScenario? scenario = some object :=
          @Compiled.ofScenario?_of_pageObject? scenario options outcomes object hobject
        exact congrArg (fun lines => [lines]) (PageObject.linesOf_source_eq hfound options.style)
  · obtain ⟨lines, hlines, hsuite⟩ := exists_lines_of_mem_files file hfile
    have hone : ∀ line ∈ lines, IsOneLine line.text := fun line hline =>
      isOneLine_of_isSpaced (hsuite line hline).isSpaced_text
    rw [hlines, linesOf_file hone] at hline
    rcases List.mem_append.mp hline with hline | hline
    · obtain ⟨written, hwritten, rfl⟩ := List.mem_map.mp hline
      exact (hsuite written hwritten).text_cases
    · obtain rfl := List.mem_singleton.mp hline
      exact .inr (.inl .nil)

/-- A scenario whose texts have line ends, quotes and code in them. -/
def unrulyScenario : Scenario where
  id := "s\r-1"
  name := "a\r\nimport os"
  description? := some "first\nsecond"
  steps := [⟨.click, "#a\")\nimport os", none, "press\r\nit"⟩, ⟨.wait, "250", none, ""⟩]
  tags := ["x\ny"]

def unrulyOutcomes : List Outcome := [⟨0, false, "#a", "#a", .unchanged, some "lost\nline"⟩]

theorem compile_unrulyScenario_lines :
    ∃ artifact, compile unrulyScenario .standard unrulyOutcomes = .ok artifact ∧
      (linesOf artifact.testSource).length = 15 ∧
      ∀ file ∈ artifact.files, .char '\r' ∉ file.2 := by
  have hok : compile unrulyScenario .standard unrulyOutcomes =
      .ok (ofScenario unrulyScenario .standard unrulyOutcomes).artifact := by rfl
  obtain ⟨hreturn, hlines, -⟩ := compile_lines hok
  exact ⟨_, hok, by rw [hlines]; rfl, fun file hfile => (hreturn file hfile).1⟩

def pauseScenario : Scenario where
  id := "s-1"
  name := "pause"
  description? := none
  steps := [⟨.wait, "250", none, ""⟩]
  tags := []

/-- The number of a pause stands in code that has no literal and is not made of names. -/
theorem compile_pauseScenario_unwritten :
    ∃ artifact, compile pauseScenario { Options.standard with pageObjects := false } [] =
        .ok artifact ∧
      ∃ line ∈ linesOf artifact.testSource, line = "    page.wait_for_timeout(250)" ∧
        isRemark line = false ∧ ¬ Written (generatedNames pauseScenario) line := by
  refine ⟨_, by rfl, "    page.wait_for_timeout(250)", ?_, rfl, by decide, fun hwritten => ?_⟩
  · -- it is the last line but one, behind a preamble and an opening of no matter what length
    rw [linesOf_testSource, testLines]
    exact List.mem_append_left _ (List.mem_append_right _ (by decide +kernel))
  · have htwo := hwritten.mem_flatten_of_mem (by decide) '2' (by decide)
    exact absurd htwo (by decide +kernel)

end PageScript.Suite
