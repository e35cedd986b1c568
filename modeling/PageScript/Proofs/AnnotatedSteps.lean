import PageScript.Proofs.ReportedSteps
import PageScript.Proofs.SuiteLayout
/-!
Outcomes as notes on the steps of a test.  Outcomes may come in any order and have any index;
those of a step that there is something to note of stand above the code of the step, in their
order, and nothing else in a suite is told by outcomes.
-/

namespace PageScript

namespace Text

/-- What stands between the blanks of a text, but for the parts in which there is nothing. -/
def wordsBetweenBlanks (s : Text) : List Text := (s.splitOnP isBlank).filter (· ≠ [])

/-- The words of a text with a single space between each two, and nothing around them. -/
def spaced (s : Text) : Text := (" " : Text).intercalate (wordsBetweenBlanks s)

theorem wordsAfter_eq {word : Text} (hword : ∀ c ∈ word, isBlank c = false) (s : Text) :
    wordsAfter word s = wordsBetweenBlanks (word.reverse ++ s) := by
  have hreverse : ∀ c ∈ word.reverse, isBlank c = false := fun c hc =>
    hword c (List.mem_reverse.mp hc)
  induction s generalizing word with
  | nil =>
      rw [wordsAfter, wordsBetweenBlanks, List.append_nil, List.splitOnP_eq_singleton hreverse]
      cases word <;> simp
  | cons c s ih =>
      rw [wordsAfter]
      cases hblank : isBlank c with
      | true =>
          rw [wordsBetweenBlanks, List.splitOnP_append_cons_of_forall_mem hreverse c hblank,
            if_pos rfl, ih (by simp) (by simp)]
          cases word <;> simp [wordsBetweenBlanks]
      | false =>
          have hmore : ∀ d ∈ c :: word, isBlank d = false :=
            List.forall_mem_cons.mpr ⟨hblank, hword⟩
          rw [if_neg Bool.false_ne_true, ih hmore fun d hd => hmore d (List.mem_reverse.mp hd)]
          simp

theorem collapse_eq_spaced (s : Text) : collapse s = spaced s := by
  rw [collapse, spaced, words, wordsAfter_eq (by simp), List.reverse_nil, List.nil_append]

end Text

/-- Whether there is something to note of a step with this outcome. -/
def Outcome.IsNoted (outcome : Outcome) : Prop :=
  outcome.warning?.getD "" ≠ "" ∨ outcome.resolved = false

instance : DecidablePred Outcome.IsNoted := fun _ => inferInstanceAs (Decidable (_ ∨ _))

/-- What is noted of the step: the warning, unless there is none. -/
def Outcome.noteText (outcome : Outcome) : Text :=
  if outcome.warning?.getD "" = "" then "target could not be resolved"
  else outcome.warning?.getD ""

theorem Outcome.isNoted_iff {outcome : Outcome}
    (hunresolved : outcome.resolved = false →
      ∃ warning, outcome.warning? = some warning ∧ warning ≠ "") :
    outcome.IsNoted ↔ ∃ warning, outcome.warning? = some warning ∧ warning ≠ "" := by
  constructor
  · rintro (hwarning | hresolved)
    · cases h : outcome.warning? with
      | none => exact absurd (congrArg (Option.getD · []) h) hwarning
      | some warning => exact ⟨warning, rfl, by rwa [h] at hwarning⟩
    · exact hunresolved hresolved
  · rintro ⟨warning, h, hne⟩
    exact .inl (by rwa [h])

namespace Suite

/-- The outcomes of the step at a place, in their order. -/
def outcomesOf (outcomes : List Outcome) (index : Nat) : List Outcome :=
  outcomes.filter fun outcome => outcome.stepIndex == (index : Int)

/-- The lines that tell of the outcomes of the step at a place. -/
def notesFor (outcomes : List Outcome) (index : Nat) : List Text :=
  ((outcomesOf outcomes index).filter fun outcome => outcome.IsNoted).map
    fun outcome => "    # WARNING: " ++ Text.spaced outcome.noteText

/-- The lines of a test with the given notes on the step at each place, between the remark that
begins the step and its code, and with the empty text behind the last of them. -/
def annotatedLines (scenario : Scenario) (options : Options) (suiteId : Text)
    (notes : Nat → List Text) : List Text :=
  let object? := objectWritten? scenario options
  let methods := (object?.map PageObject.methods).getD []
  let comment (index : Nat) (step : Step) : Text :=
    "    # Step " ++ toString (index + 1) ++ ": " ++ step.action.label ++ " " ++
      Text.spaced (if step.description = "" then step.target else step.description)
  let code (step : Step) : Text :=
    "    " ++ (Statement.ofStep options.style methods step).code
      ((object?.map PageObject.moduleName).getD "")
  preambleLines scenario suiteId object? ++ openingLines scenario object? ++
  (if scenario.steps = [] then [("    pass" : Text)]
    else scenario.steps.zipIdx.flatMap fun (step, index) =>
      comment index step :: notes index ++ [code step]) ++
  [[]]

theorem Block.warning?_eq (outcome : Outcome) :
    warning? outcome = if outcome.IsNoted then some outcome.noteText else none := by
  have hnotice : outcome.notice? =
      if outcome.warning?.getD "" = "" then none else some (outcome.warning?.getD "") := by
    unfold Outcome.notice? Text.nonempty?
    rcases outcome.warning? with _ | _ | ⟨c, warning⟩ <;> rfl
  rw [warning?, hnotice, Outcome.noteText]
  by_cases hwarning : outcome.warning?.getD "" = "" <;> cases hresolved : outcome.resolved <;>
    simp only [Outcome.IsNoted, hwarning, hresolved, ne_eq, not_true_eq_false, not_false_eq_true,
      false_or, true_or, Bool.true_eq_false, Bool.false_eq_true, if_true, if_false]
  rfl

theorem map_warningsFor (outcomes : List Outcome) (index : Nat) :
    (Block.warningsFor index outcomes).map
        (fun warning => "    # WARNING: " ++ Text.collapse warning) =
      notesFor outcomes index := by
  change ((outcomesOf outcomes index).filterMap Block.warning?).map _ = _
  rw [List.map_filterMap, notesFor, ← List.filterMap_eq_map, List.filterMap_filter]
  congr 1
  funext outcome
  rw [Block.warning?_eq]
  by_cases hnoted : outcome.IsNoted <;> simp [hnoted, Text.collapse_eq_spaced]

theorem testLines_eq (scenario : Scenario) (options : Options) (outcomes : List Outcome)
    (suiteId : Text) :
    testLines scenario options outcomes suiteId =
      annotatedLines scenario options suiteId (notesFor outcomes) := by
  simp only [testLines, annotatedLines, sectionLines, map_warningsFor, ← Text.collapse_eq_spaced]

theorem notesFor_ne_nil_iff {outcomes : List Outcome} {index : Nat} :
    notesFor outcomes index ≠ [] ↔
      ∃ outcome ∈ outcomes, outcome.stepIndex = (index : Int) ∧ outcome.IsNoted := by
  simp [notesFor, outcomesOf, and_comm]

/-- Only the outcomes of each step by itself, in their order, get into a suite. -/
theorem ofScenario_congr {scenario : Scenario} {outcomes others : List Outcome}
    (hsame : ∀ index < scenario.steps.length, outcomesOf others index = outcomesOf outcomes index)
    (options : Options) :
    ofScenario scenario options others = ofScenario scenario options outcomes := by
  have hblocks (methods : List Method) :
      (scenario.steps.zipIdx.map fun (step, index) =>
        Block.ofStep options.style methods others index step) =
      scenario.steps.zipIdx.map fun (step, index) =>
        Block.ofStep options.style methods outcomes index step := by
    refine List.map_congr_left fun item hitem => ?_
    have hindex := hsame item.2 (by simpa using List.snd_lt_of_mem_zipIdx hitem)
    have hwarnings : Block.warningsFor item.2 others = Block.warningsFor item.2 outcomes :=
      congrArg (List.filterMap Block.warning?) hindex
    simp only [Block.ofStep, hwarnings]
  simp only [ofScenario, hblocks]

/-- In a report, the outcome at the place of a step is the only one of that step. -/
theorem notesFor_of_describes {draft : Scenario} {report : Report} (h : report.Describes draft)
    {i : Nat} {outcome : Outcome} (houtcome : report.outcomes[i]? = some outcome) :
    (notesFor report.outcomes i ≠ [] ↔
      ∃ warning, outcome.warning? = some warning ∧ warning ≠ "") ∧
    (outcome.resolved = false → notesFor report.outcomes i ≠ []) := by
  have hfound : ∀ {j : Nat} {found : Outcome}, report.outcomes[j]? = some found →
      found.stepIndex = j ∧ (found.resolved = false →
        ∃ warning, found.warning? = some warning ∧ warning ≠ "") := by
    intro j found hj
    have hlength : j < draft.steps.length := by
      rw [← h.outcomeCount]
      exact (List.getElem?_eq_some_iff.mp hj).1
    obtain ⟨known, hknown, -, hdescribes⟩ := h.step j _ (List.getElem?_eq_getElem hlength)
    obtain rfl := Option.some.inj (hknown.symm.trans hj)
    exact ⟨hdescribes.stepIndex, fun hresolved => (hdescribes.unresolved hresolved).2⟩
  have hnoted := Outcome.isNoted_iff (hfound houtcome).2
  have hnotes : notesFor report.outcomes i ≠ [] ↔ outcome.IsNoted := by
    rw [notesFor_ne_nil_iff]
    constructor
    · rintro ⟨found, hmem, hindex, hfoundNoted⟩
      obtain ⟨j, hj⟩ := List.mem_iff_getElem?.mp hmem
      obtain rfl : j = i := Int.ofNat.inj ((hfound hj).1.symm.trans hindex)
      obtain rfl := Option.some.inj (hj.symm.trans houtcome)
      exact hfoundNoted
    · exact fun h => ⟨outcome, List.mem_of_getElem? houtcome, (hfound houtcome).1, h⟩
  exact ⟨hnotes.trans hnoted, fun hresolved => hnotes.mpr (.inr hresolved)⟩

/-- A test that is compiled with some outcomes has their notes, each between the remark that
begins its step and the code of the step.  Other outcomes give the same suite with other notes,
and the very same suite if they are the same for each step.  With the outcomes of a report, the
steps with a note are those whose outcome has a warning, and every step that is not resolved is
one of them. -/
theorem compile_annotated {scenario : Scenario} {options : Options} {outcomes : List Outcome}
    {artifact : Artifact} (hartifact : compile scenario options outcomes = .ok artifact) :
    linesOf artifact.testSource =
      annotatedLines scenario options artifact.suiteId (notesFor outcomes) ∧
    (∀ others, ∃ other, compile scenario options others = .ok other ∧
      { other with testSource := artifact.testSource } = artifact ∧
      linesOf other.testSource =
        annotatedLines scenario options artifact.suiteId (notesFor others) ∧
      ((∀ index < scenario.steps.length, outcomesOf others index = outcomesOf outcomes index) →
        other = artifact)) ∧
    ∀ {σ η : Type} {I : σ → Prop} {resolver : Validation.Resolver σ η}
      {openPage : Routine σ (Page σ η)} {draft : Scenario} {url : Text} {s : σ},
      Validation.NamesFailures I resolver openPage → I s →
      (Validation.validate resolver openPage draft url s).value = .ok (.ok ⟨scenario, outcomes⟩) →
      ∀ (i : Nat) (outcome : Outcome), outcomes[i]? = some outcome →
        (notesFor outcomes i ≠ [] ↔
          ∃ warning : Text, outcome.warning? = some warning ∧ warning ≠ "") ∧
        (outcome.resolved = false → notesFor outcomes i ≠ []) := by
  obtain ⟨hnone, rfl⟩ := compile_eq_ok_iff.mp hartifact
  refine ⟨?_, fun others => ⟨_, compile_eq_ok_iff.mpr ⟨hnone, rfl⟩, rfl, ?_, fun hsame => ?_⟩, ?_⟩
  · exact (linesOf_testSource scenario options outcomes).trans (testLines_eq _ _ _ _)
  · exact (linesOf_testSource scenario options others).trans (testLines_eq _ _ _ _)
  · rw [ofScenario_congr hsame]
  · intro σ η I resolver openPage draft url s hnames hs hreport i outcome houtcome
    have hdescribes := Validation.describes_of_validate hnames hs hreport
    exact notesFor_of_describes hdescribes houtcome

/-- The outcome of a step that a resolver fails for, among outcomes of no step. -/
def strayOutcomes : List Outcome :=
  [⟨-1, false, "#a", "#a", .unchanged, none⟩, ⟨0, false, "#a", "#a", .unchanged, some "ValueError"⟩,
   ⟨1, true, "#b", "#b", .unchanged, some "late"⟩]

/-- Outcomes of one step: a warning on several lines, one that is blank, and none at all. -/
def unevenOutcomes : List Outcome :=
  [⟨0, true, "#a", "#a", .unchanged, some "\n no\telement \r\n\r\n  'a b'  here "⟩,
   ⟨0, true, "#a", "#a", .unchanged, some " \n "⟩, ⟨0, false, "#a", "#a", .unchanged, none⟩]

theorem compile_lostScenario_annotated :
    let outcomes := [(⟨0, false, "#a", "#a", .unchanged, some "ValueError"⟩ : Outcome)]
    let lines : List Text :=
      ["    # Step 1: click #a", "    # WARNING: no element 'a b' here", "    # WARNING: ",
       "    # WARNING: target could not be resolved", "    page.locator(\"#a\").click()", ""]
    ∃ artifact uneven, compile Validation.lostScenario .standard outcomes = .ok artifact ∧
      compile Validation.lostScenario .standard strayOutcomes = .ok artifact ∧
      linesOf artifact.testSource = annotatedLines Validation.lostScenario .standard
        artifact.suiteId (notesFor outcomes) ∧
      notesFor outcomes 0 ≠ [] ∧
      compile Validation.lostScenario .standard unevenOutcomes = .ok uneven ∧
      lines <:+ linesOf uneven.testSource := by
  intro outcomes lines
  have hok : compile Validation.lostScenario .standard outcomes =
      .ok (ofScenario Validation.lostScenario .standard outcomes).artifact := by rfl
  obtain ⟨hlines, hothers, hreported⟩ := compile_annotated hok
  obtain ⟨other, hother, -, -, hsame⟩ := hothers strayOutcomes
  obtain ⟨uneven, huneven, -, hunevenLines, -⟩ := hothers unevenOutcomes
  obtain rfl := hsame (by decide)
  have hreport : (Validation.validate Validation.falteringResolver
      (pure (Validation.lostPage (.ok ()))) Validation.lostScenario "/" 0).value =
        .ok (.ok ⟨Validation.lostScenario, outcomes⟩) := rfl
  have hnotes := hreported Validation.namesFailures_lostPage trivial hreport 0 _ rfl
  refine ⟨_, uneven, hok, hother, hlines, hnotes.2 rfl, huneven, ?_⟩
  rw [hunevenLines, annotatedLines, List.append_assoc]
  refine List.IsSuffix.trans ?_ (List.suffix_append _ _)
  decide +kernel

end Suite

end PageScript
