import PageScript.Proofs.MethodCalls

namespace PageScript.Suite

/-- The code of a test without page objects, line by line. -/
def stepLines (style : Style) (steps : List Step) : List Text :=
  if steps.isEmpty then [Line.indentation 4 ++ "pass"] else steps.map (stepLine style)

theorem isFunctionCode_code {code : Text} (hcode : code.head? ≠ some (.char '#')) :
    isFunctionCode (Line.code 4 code).text = true := by
  rw [isFunctionCode, Line.text, dropPrefix?_append]
  simpa using hcode

theorem isFunctionCode_note (word s : Text) :
    isFunctionCode (Line.note 4 word s).text = false := by
  rw [isFunctionCode, Line.note, Line.text, List.append_assoc, dropPrefix?_append]
  rfl

theorem head?_append_ne {s : Text} (hs : Name.IsSafeText s) {t : Text}
    (ht : t.head? ≠ some (.char '#')) : (s ++ t).head? ≠ some (.char '#') := by
  cases s with
  | nil => exact ht
  | cons c s =>
      intro hhead
      obtain rfl := Option.some.inj hhead
      exact absurd (hs _ List.mem_cons_self) (by decide)

theorem Statement.head?_code_ne {object : Text} (hobject : Name.IsSafeText object)
    (statement : Statement) : (statement.code object).head? ≠ some (.char '#') := by
  cases statement with
  | call inline =>
      obtain ⟨rest, hrest | hrest⟩ := inline.exists_code_eq
      · rw [Statement.code, hrest]
        exact fun hhead => absurd (Option.some.inj hhead) (by decide)
      · rw [Statement.code, hrest]
        exact fun hhead => absurd (Option.some.inj hhead) (by decide)
  | method name data? sequentially =>
      simp only [Statement.code, List.append_assoc]
      refine head?_append_ne hobject fun hhead => ?_
      exact absurd (Option.some.inj hhead) (by decide)

namespace TestModule

/-- The line that makes the page object of a test. -/
def binding (test : TestModule) : List Text :=
  match test.pageObject? with
  | some (moduleName, className) =>
      [Line.indentation 4 ++ (moduleName ++ " = " ++ className ++ "(page)")]
  | none => []

/-- The lines that the steps of a test come to. -/
def stepCode (test : TestModule) : List Text :=
  if test.blocks.isEmpty then [Line.indentation 4 ++ "pass"]
  else test.blocks.map fun block =>
    Line.indentation 4 ++ block.statement.code ((test.pageObject?.map Prod.fst).getD "")

theorem filter_preamble (test : TestModule) :
    (test.preamble.map Line.text).filter isFunctionCode = [] := by
  have htags : ((if test.tags.isEmpty then []
      else [Line.note 0 "Tags: " ((", " : Text).intercalate test.tags)]).map Line.text).filter
        isFunctionCode = [] := by
    split <;> rfl
  unfold preamble
  simp only [List.map_append, List.filter_append, htags, List.append_nil]
  split <;> rfl

theorem filter_opening {test : TestModule}
    (hmodule : ∀ moduleName className, test.pageObject? = some (moduleName, className) →
      Name.IsSafeText moduleName) :
    (test.opening.map Line.text).filter isFunctionCode = test.binding := by
  have hdef : isFunctionCode (Line.code 0 ("def test_" ++ test.function ++ "(page: Page):")).text =
      false := rfl
  have hdescription : ((if test.description = "" then []
      else [Line.note 4 "" test.description]).map Line.text).filter isFunctionCode = [] := by
    split
    · rfl
    · simp [isFunctionCode_note]
  rw [opening, binding, List.map_append, List.filter_append, List.map_cons,
    List.filter_cons_of_neg (Bool.eq_false_iff.mp hdef), hdescription, List.nil_append]
  rcases hnames : test.pageObject? with _ | ⟨moduleName, className⟩
  · rfl
  · have hhead : (moduleName ++ " = " ++ className ++ "(page)").head? ≠ some (.char '#') := by
      simp only [List.append_assoc]
      refine head?_append_ne (hmodule moduleName className hnames) fun hhead => ?_
      exact absurd (Option.some.inj hhead) (by decide)
    exact List.filter_cons_of_pos (isFunctionCode_code hhead)

theorem filter_block {object : Text} (hobject : Name.IsSafeText object) (block : Block) :
    ((block.lines object).map Line.text).filter isFunctionCode =
      [Line.indentation 4 ++ block.statement.code object] := by
  have hwarnings : ((block.warnings.map (Line.note 4 "WARNING: ")).map Line.text).filter
      isFunctionCode = [] := by
    simp [isFunctionCode_note]
  have hcode := isFunctionCode_code (Statement.head?_code_ne hobject block.statement)
  rw [Block.lines, List.map_append, List.filter_append, List.map_cons,
    List.filter_cons_of_neg (by simp [isFunctionCode_note]), hwarnings, List.nil_append,
    List.map_singleton, List.filter_cons_of_pos hcode]
  rfl

theorem filter_body {test : TestModule}
    (hobject : Name.IsSafeText ((test.pageObject?.map Prod.fst).getD "")) :
    (test.body.map Line.text).filter isFunctionCode = test.stepCode := by
  unfold body stepCode
  split
  · rfl
  · induction test.blocks with
    | nil => rfl
    | cons block blocks ih =>
        rw [List.flatMap_cons, List.map_append, List.filter_append, filter_block hobject, ih]
        rfl

/-- The code in the file of a test: the page object is made, then come the steps. -/
theorem functionCode_file {test : TestModule} (hlines : ∀ line ∈ test.lines, IsOneLine line.text)
    (hmodule : ∀ moduleName className, test.pageObject? = some (moduleName, className) →
      Name.IsSafeText moduleName) :
    functionCode (Line.file test.lines) = test.binding ++ test.stepCode := by
  have hobject : Name.IsSafeText ((test.pageObject?.map Prod.fst).getD "") := by
    rcases hnames : test.pageObject? with _ | ⟨moduleName, className⟩
    · exact Name.isSafeText_nil
    · exact hmodule moduleName className hnames
  have hlast : ([[]] : List Text).filter isFunctionCode = [] := rfl
  rw [functionCode, linesOf_file hlines, lines, List.map_append, List.map_append,
    List.filter_append, List.filter_append, List.filter_append, filter_preamble,
    filter_opening hmodule, filter_body hobject, hlast, List.nil_append, List.append_nil]

theorem import_mem_lines {test : TestModule} (hlines : ∀ line ∈ test.lines, IsOneLine line.text)
    {moduleName className : Text} (hnames : test.pageObject? = some (moduleName, className)) :
    "from " ++ moduleName ++ " import " ++ className ∈ linesOf (Line.file test.lines) := by
  have hline : Line.code 0 ("from " ++ moduleName ++ " import " ++ className) ∈ test.lines := by
    apply List.mem_append_left
    apply List.mem_append_left
    rw [preamble, hnames]
    simp
  rw [linesOf_file hlines]
  exact List.mem_append_left _ (List.mem_map_of_mem hline)

end TestModule

theorem bindsObject_source {object : PageObject} (hobject : object.IsWritable) (style : Style)
    {test : TestModule} (hlines : ∀ line ∈ test.lines, IsOneLine line.text)
    (hnames : test.pageObject? = some (object.moduleName, object.className)) :
    bindsObject (SourceFile.ofPageObject style object) (linesOf (Line.file test.lines))
      (Line.indentation 4 ++ (object.moduleName ++ " = " ++ object.className ++ "(page)")) =
        true := by
  have hclass : (linesOf (SourceFile.ofPageObject style object).source).findSome? classBegun? =
      some object.className := by
    rw [PageObject.linesOf_source hobject, PageObject.findSome?_classBegun?]
  have himport := List.contains_iff_mem.mpr (TestModule.import_mem_lines hlines hnames)
  have hinit := PageObject.methodsNamed_init hobject style
  have hnamed : (SourceFile.ofPageObject style object).name = object.moduleName := rfl
  simp only [bindsObject, hclass, hinit, hnamed, himport, beq_self_eq_true, Bool.and_self]

namespace Compiled

/-- The names in the test of a scenario, when it has a page object. -/
theorem test_pageObject?_cases (scenario : Scenario) (options : Options) (outcomes : List Outcome) :
    let suite := ofScenario scenario options outcomes
    (suite.pageObject? = none ∧ suite.test.pageObject? = none) ∨
      ∃ object, suite.pageObject? = some object ∧ object.IsWritable ∧
        object.methods = Method.ofSteps scenario.steps ∧ scenario.steps ≠ [] ∧
        suite.test.pageObject? = some (object.moduleName, object.className) := by
  intro suite
  have htest : suite.test.pageObject? =
      suite.pageObject?.map fun object => (object.moduleName, object.className) := rfl
  cases hobject : suite.pageObject? with
  | none => exact Or.inl ⟨rfl, by rw [htest, hobject]; rfl⟩
  | some object =>
      have hfound := ofScenario?_of_pageObject? hobject
      obtain ⟨hwritable, hmethods⟩ := PageObject.isWritable_of_ofScenario? hfound
      refine Or.inr ⟨object, rfl, hwritable, hmethods, ?_, by rw [htest, hobject]; rfl⟩
      intro hnil
      rw [PageObject.ofScenario?, hnil] at hfound
      exact absurd hfound (by simp [Method.ofSteps, Uses.ofSteps])

/-- The code of the test of a scenario: the page object is made, then comes the
statement of each step. -/
theorem functionCode_test (scenario : Scenario) (options : Options) (outcomes : List Outcome) :
    let suite := ofScenario scenario options outcomes
    functionCode suite.artifact.testSource = suite.test.binding ++
      if scenario.steps.isEmpty then [Line.indentation 4 ++ "pass"]
      else scenario.steps.map fun step => Line.indentation 4 ++
        (Statement.ofStep options.style
          ((suite.pageObject?.map PageObject.methods).getD []) step).code
          ((suite.test.pageObject?.map Prod.fst).getD "") := by
  intro suite
  have hmodule : ∀ moduleName className, suite.test.pageObject? = some (moduleName, className) →
      Name.IsSafeText moduleName := by
    intro moduleName className hnames
    rcases test_pageObject?_cases scenario options outcomes with
      ⟨-, htest⟩ | ⟨object, -, hwritable, -, -, htest⟩
    · exact absurd (htest.symm.trans hnames) (by simp)
    · obtain ⟨rfl, -⟩ := Prod.mk.inj (Option.some.inj (htest.symm.trans hnames))
      exact hwritable.module
  have hcode := TestModule.functionCode_file (isOneLine_test scenario options outcomes) hmodule
  have hblocks : suite.test.blocks.isEmpty = scenario.steps.isEmpty := by
    change (scenario.steps.zipIdx.map _).isEmpty = _
    cases scenario.steps <;> rfl
  have hsteps : scenario.steps.zipIdx.map Prod.fst = scenario.steps := List.zipIdx_map_fst 0 _
  refine hcode.trans ?_
  rw [TestModule.stepCode, hblocks]
  congr 2
  conv_rhs => rw [← hsteps]
  rw [List.map_map]
  change (scenario.steps.zipIdx.map _).map _ = _
  rw [List.map_map]
  rfl

theorem functionCode_of_none {scenario : Scenario} {options : Options} {outcomes : List Outcome}
    (hnone : (ofScenario scenario options outcomes).pageObject? = none) :
    functionCode (ofScenario scenario options outcomes).artifact.testSource =
      stepLines options.style scenario.steps := by
  have htest : (ofScenario scenario options outcomes).test.pageObject? = none :=
    congrArg (Option.map _) hnone
  have hcode := functionCode_test scenario options outcomes
  simp only [TestModule.binding, htest, hnone, Option.map_none, Option.getD_none,
    List.nil_append] at hcode
  rw [hcode]
  rfl

theorem functionCode_of_some {scenario : Scenario} {options : Options} {outcomes : List Outcome}
    {object : PageObject} (hsome : (ofScenario scenario options outcomes).pageObject? = some object)
    (hsteps : scenario.steps ≠ []) :
    functionCode (ofScenario scenario options outcomes).artifact.testSource =
      (Line.indentation 4 ++ (object.moduleName ++ " = " ++ object.className ++ "(page)")) ::
        scenario.steps.map fun step => Line.indentation 4 ++
          (Statement.ofStep options.style object.methods step).code object.moduleName := by
  have htest : (ofScenario scenario options outcomes).test.pageObject? =
      some (object.moduleName, object.className) := congrArg (Option.map _) hsome
  have hempty : scenario.steps.isEmpty = false := by simpa using hsteps
  have hcode := functionCode_test scenario options outcomes
  simp only [TestModule.binding, htest, hsome, Option.map_some, Option.getD_some, hempty,
    Bool.false_eq_true, if_false, List.singleton_append] at hcode
  exact hcode

theorem pageObjects_artifact (suite : Compiled) :
    suite.artifact.pageObjects =
      (suite.pageObject?.map (SourceFile.ofPageObject suite.style)).toList :=
  rfl

end Compiled

theorem mapM_map_eq_some {α β γ : Type} {f : α → β} {g : β → Option γ} {h : α → γ} {items : List α}
    (hitems : ∀ item ∈ items, g (f item) = some (h item)) :
    (items.map f).mapM g = some (items.map h) := by
  induction items with
  | nil => rfl
  | cons item items ih =>
      rw [List.forall_mem_cons] at hitems
      rw [List.map_cons, List.mapM_cons, hitems.1, ih hitems.2]
      rfl

/-- Without the calls of methods, a test has one line for each step, whether the
suite has a page object or not. -/
theorem expanded?_artifact (scenario : Scenario) (options : Options) (outcomes : List Outcome) :
    (ofScenario scenario options outcomes).artifact.expanded? =
      some (stepLines options.style scenario.steps) := by
  rcases Compiled.test_pageObject?_cases scenario options outcomes with
    ⟨hnone, htest⟩ | ⟨object, hsome, hwritable, hmethods, hsteps, htest⟩
  · rw [Artifact.expanded?, Compiled.pageObjects_artifact, hnone,
      Compiled.functionCode_of_none hnone]
    rfl
  · have hlines : (scenario.steps.map fun step => Line.indentation 4 ++
        (Statement.ofStep options.style object.methods step).code object.moduleName).mapM
          (expandLine? (SourceFile.ofPageObject options.style object)) =
        some (stepLines options.style scenario.steps) := by
      rw [mapM_map_eq_some fun step hstep =>
        expandLine?_statement hwritable hmethods options.style hstep, stepLines,
        if_neg (by simpa using hsteps)]
    have hbinds := bindsObject_source hwritable options.style
      (isOneLine_test scenario options outcomes) htest
    rw [Artifact.expanded?, Compiled.pageObjects_artifact, hsome,
      Compiled.functionCode_of_some hsome hsteps]
    exact (if_pos hbinds).trans hlines

theorem compile_eq_ok_iff {scenario : Scenario} {options : Options} {outcomes : List Outcome}
    {artifact : Artifact} :
    compile scenario options outcomes = .ok artifact ↔
      compileError? scenario options = none ∧
        (ofScenario scenario options outcomes).artifact = artifact := by
  unfold compile
  split
  · rename_i herror
    simp [herror]
  · rename_i hnone
    simp [hnone]

/-- A suite with page objects means what the suite without them says: with the
code of the methods in place of their calls, the tests are the same, and have one
line for each step. -/
theorem compile_withPageObjects_expanded (scenario : Scenario) (options : Options)
    (outcomes : List Outcome) {factored : Artifact}
    (hfactored : compile scenario { options with pageObjects := true } outcomes = .ok factored) :
    ∃ plain, compile scenario { options with pageObjects := false } outcomes = .ok plain ∧
      plain.pageObjects = [] ∧
      factored.expanded? = some (functionCode plain.testSource) ∧
      functionCode plain.testSource = stepLines options.style scenario.steps := by
  obtain ⟨hnone, rfl⟩ := compile_eq_ok_iff.mp hfactored
  have hplain := expanded?_artifact scenario { options with pageObjects := false } outcomes
  have hcode : functionCode
      (ofScenario scenario { options with pageObjects := false } outcomes).artifact.testSource =
        stepLines options.style scenario.steps := Option.some.inj hplain
  refine ⟨_, compile_eq_ok_iff.mpr ⟨hnone, rfl⟩, rfl, ?_, hcode⟩
  rw [hcode]
  exact expanded?_artifact scenario { options with pageObjects := true } outcomes

/-- A scenario that fills and types into one element and clicks another one twice. -/
def searchScenario : Scenario where
  id := "s-1"
  name := "search"
  description? := none
  steps :=
    [⟨.goto, "/search", none, ""⟩,
     ⟨.type, "#query", some "first", ""⟩,
     ⟨.click, "#go", none, ""⟩,
     ⟨.wait, "250", none, ""⟩,
     ⟨.fill, "#query", some "second", ""⟩,
     ⟨.click, "#go", none, ""⟩]
  tags := []

theorem compile_searchScenario_expanded :
    ∃ factored plain,
      compile searchScenario { Options.standard with pageObjects := true } [] = .ok factored ∧
      compile searchScenario { Options.standard with pageObjects := false } [] = .ok plain ∧
      factored.pageObjects.length = 1 ∧
      factored.expanded? = some (functionCode plain.testSource) := by
  have hok : compile searchScenario { Options.standard with pageObjects := true } [] =
      .ok (ofScenario searchScenario { Options.standard with pageObjects := true } []).artifact := by
    rfl
  obtain ⟨plain, hplain, -, hexpanded, -⟩ :=
    compile_withPageObjects_expanded searchScenario .standard [] hok
  exact ⟨_, plain, hok, hplain, by rfl, hexpanded⟩

end PageScript.Suite
