import Mathlib.Data.List.Basic
import PageScript.Suite.Artifact
/-!
Generated files, line by line.  Where no line that is written holds the end of one, the
lines of a file are those that it was made of; what these are is said by the parts of a suite.
-/

namespace PageScript.Suite

/-- A text that stays on one line. -/
def IsOneLine (s : Text) : Prop := ∀ c ∈ s, c ≠ '\n'

/-- The lines of a file, the last of them being what stands behind the last end
of a line. -/
def linesOf (source : Text) : List Text := Text.splitAt '\n' source

theorem linesOf_file {lines : List Line} (hlines : ∀ line ∈ lines, IsOneLine line.text) :
    linesOf (Line.file lines) = lines.map Line.text ++ [[]] := by
  induction lines with
  | nil => rfl
  | cons line lines ih =>
      rw [List.forall_mem_cons] at hlines
      have hfirst : ∀ c ∈ line.text, (c == .char '\n') = false := fun c hc => by
        simpa using hlines.1 c hc
      have hfile : Line.file (line :: lines) = line.text ++ .char '\n' :: Line.file lines := by
        simp [Line.file, Text.ofString]
      have hrest := ih hlines.2
      rw [linesOf, Text.splitAt] at hrest ⊢
      rw [hfile, List.splitOnP_append_cons_of_forall_mem hfirst _ (by simp), hrest]
      rfl

namespace PageObject

theorem forall_mem_lines {object : PageObject} {style : Style} {P : Line → Prop} :
    (∀ line ∈ object.lines style, P line) ↔
      P .header ∧ P (.note 0 "Page object for scenario: " object.scenarioName) ∧ P .imports ∧
      P .empty ∧ P (.code 0 ("class " ++ object.className ++ ":")) ∧
      P (.code 4 "def __init__(self, page: Page):") ∧ P (.code 8 "self.page = page") ∧
      ∀ method ∈ object.methods, ∀ line ∈ method.lines style, P line := by
  rw [lines, List.forall_mem_append, List.forall_mem_flatMap]
  simp [and_assoc]

theorem eq_of_ofScenario? {scenario : Scenario} {object : PageObject}
    (hobject : ofScenario? scenario = some object) :
    object = ⟨Name.uniqueModuleName scenario.name ++ "_page",
      Name.className (Name.uniqueModuleName scenario.name) ++ "Page", scenario.name,
      Method.ofSteps scenario.steps⟩ := by
  unfold ofScenario? at hobject
  split at hobject
  · exact absurd hobject (by simp)
  · exact (Option.some.inj hobject).symm

end PageObject

theorem Block.forall_mem_lines {object : Text} {block : Block} {P : Line → Prop} :
    (∀ line ∈ block.lines object, P line) ↔
      P (.note 4 ("Step " ++ toString block.number ++ ": " ++ block.action.label ++ " ")
        block.remark) ∧
      (∀ warning ∈ block.warnings, P (.note 4 "WARNING: " warning)) ∧
      P (.code 4 (block.statement.code object)) := by
  rw [lines, List.cons_append, List.forall_mem_cons, List.forall_mem_append]
  simp

theorem forall_mem_ite {α : Type} {p : Prop} [Decidable p] {items others : List α}
    {P : α → Prop} :
    (∀ item ∈ (if p then items else others), P item) ↔
      (p → ∀ item ∈ items, P item) ∧ (¬ p → ∀ item ∈ others, P item) := by
  split <;> simp_all

namespace TestModule

theorem forall_mem_body {test : TestModule} {P : Line → Prop} :
    (∀ line ∈ test.body, P line) ↔ (test.blocks = [] → P (.code 4 "pass")) ∧
      ∀ block ∈ test.blocks,
        ∀ line ∈ block.lines ((test.pageObject?.map Prod.fst).getD ""), P line := by
  rw [body]
  by_cases hblocks : test.blocks = []
  · simp [hblocks]
  · simp only [List.isEmpty_iff, hblocks, if_false, List.forall_mem_flatMap, false_imp_iff, true_and]

theorem forall_mem_lines {test : TestModule} {P : Line → Prop} :
    (∀ line ∈ test.lines, P line) ↔
      P .header ∧ P (.note 0 "Suite: " test.suiteId) ∧
      P (.remark 0 ("Scenario: " ++ Text.collapse test.scenarioName ++
        " (" ++ Text.collapse test.scenarioId ++ ")")) ∧
      (test.tags ≠ [] → P (.note 0 "Tags: " ((", " : Text).intercalate test.tags))) ∧
      P .imports ∧
      (∀ names ∈ test.pageObject?,
        P .empty ∧ P (.code 0 ("from " ++ names.1 ++ " import " ++ names.2))) ∧
      P .empty ∧
      P (.code 0 ("def test_" ++ test.function ++ "(page: Page):")) ∧
      (test.description ≠ "" → P (.note 4 "" test.description)) ∧
      (∀ names ∈ test.pageObject?, P (.code 4 (names.1 ++ " = " ++ names.2 ++ "(page)"))) ∧
      (test.blocks = [] → P (.code 4 "pass")) ∧
      ∀ block ∈ test.blocks,
        ∀ line ∈ block.lines ((test.pageObject?.map Prod.fst).getD ""), P line := by
  rw [lines, List.forall_mem_append, List.forall_mem_append, forall_mem_body]
  unfold preamble opening
  simp only [List.forall_mem_append, List.forall_mem_cons, List.cons_append, forall_mem_ite,
    List.isEmpty_iff]
  rcases test.pageObject? with _ | ⟨moduleName, className⟩ <;> simp [and_assoc]

end TestModule

namespace Compiled

theorem ofScenario?_of_pageObject? {scenario : Scenario} {options : Options}
    {outcomes : List Outcome} {object : PageObject}
    (hobject : (ofScenario scenario options outcomes).pageObject? = some object) :
    PageObject.ofScenario? scenario = some object := by
  simp only [ofScenario] at hobject
  split at hobject
  · exact hobject
  · exact absurd hobject (by simp)

theorem mem_blocks {scenario : Scenario} {options : Options} {outcomes : List Outcome}
    {block : Block} (hblock : block ∈ (ofScenario scenario options outcomes).test.blocks) :
    ∃ step ∈ scenario.steps, block.statement = Statement.ofStep options.style
      (((ofScenario scenario options outcomes).pageObject?.map PageObject.methods).getD []) step := by
  obtain ⟨⟨step, index⟩, hstep, rfl⟩ := List.mem_map.mp hblock
  exact ⟨step, List.fst_mem_of_mem_zipIdx hstep, rfl⟩

end Compiled

end PageScript.Suite
