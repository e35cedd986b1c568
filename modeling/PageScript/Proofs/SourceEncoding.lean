import PageScript.Proofs.SuiteLayout

namespace PageScript

namespace Text

theorem exists_mem_wordsAfter_iff {s word : Text} {c : CodePoint} (hc : isBlank c = false) :
    (∃ found ∈ wordsAfter word s, c ∈ found) ↔ c ∈ word ∨ c ∈ s := by
  induction s generalizing word with
  | nil => cases word <;> simp [wordsAfter, or_comm]
  | cons d s ih =>
      rw [wordsAfter]
      split
      · rename_i hblank
        have hne : c ≠ d := by
          rintro rfl
          exact absurd (hc.symm.trans hblank) (by decide)
        cases word with
        | nil => simpa [hne] using @ih []
        | cons e word =>
            have hrest := @ih []
            simp only [List.not_mem_nil, false_or] at hrest
            simp [hne, hrest, or_comm, or_left_comm]
      · rw [ih, List.mem_cons, List.mem_cons]
        tauto

theorem mem_collapse_iff {s : Text} {c : CodePoint} (hc : isBlank c = false) :
    c ∈ collapse s ↔ c ∈ s := by
  have hspace : c ∉ (" " : Text) := fun hmem => by
    obtain rfl := List.mem_singleton.mp hmem
    exact absurd hc (by decide)
  rw [collapse, mem_intercalate_iff hspace, words, exists_mem_wordsAfter_iff hc]
  simp

end Text

namespace Suite

def isCodecPart (c : CodePoint) : Bool :=
  Text.isAsciiAlnum c || c == '-' || c == '_' || c == '.'

/-- Whether a text begins with the word for an encoding, a sign, and the name of a codec. -/
def beginsCoding (s : Text) : Bool :=
  match s.dropPrefix? "coding" with
  | some (sign :: rest) =>
      (sign == ':' || sign == '=') &&
        ((rest.dropWhile fun c : CodePoint => c == ' ' || c == '\t').head?.any isCodecPart)
  | _ => false

def mentionsCoding : Text → Bool
  | [] => false
  | c :: s => beginsCoding (c :: s) || mentionsCoding s

def declaresEncoding (line : Text) : Bool :=
  match line.dropWhile (fun c : CodePoint => c == ' ' || c == '\t' || c == '\x0c') with
  | .char '#' :: remark => mentionsCoding remark
  | _ => false

/-- A file that can be loaded as UTF-8: it has no U+0000, and its first two lines, in which an
encoding can be declared, declare none. -/
structure IsLoadable (source : Text) : Prop where
  noNull : .char '\x00' ∉ source
  noEncoding : ∀ line ∈ (linesOf source).take 2, declaresEncoding line = false

theorem mem_of_mentionsCoding {s : Text} (hs : mentionsCoding s = true) :
    .char ':' ∈ s ∨ .char '=' ∈ s := by
  induction s with
  | nil => exact absurd hs (by decide)
  | cons c s ih =>
      rw [mentionsCoding, Bool.or_eq_true] at hs
      rcases hs with hs | hs
      · unfold beginsCoding at hs
        split at hs
        · rename_i sign rest hprefix
          have hmem : sign ∈ c :: s := by
            obtain ⟨before, heq, -⟩ := List.dropPrefix?_eq_some_iff.mp hprefix
            rw [heq]
            exact List.mem_append_right _ List.mem_cons_self
          rw [Bool.and_eq_true, Bool.or_eq_true, beq_iff_eq, beq_iff_eq] at hs
          rcases hs.1 with rfl | rfl
          · exact .inl hmem
          · exact .inr hmem
        · exact absurd hs (by decide)
      · exact (ih hs).imp (List.mem_cons_of_mem c) (List.mem_cons_of_mem c)

theorem isSafeText_suiteIdOf (options : Options) (scenario : Scenario) :
    Name.IsSafeText (suiteIdOf options scenario) :=
  Name.isSafeText_identifier (Name.isSafeText_identifier (by decide))

theorem declaresEncoding_note (s : Text) :
    declaresEncoding ("# Page object for scenario: " ++ Text.collapse s) =
      mentionsCoding (Text.collapse s) := rfl

theorem declaresEncoding_suite {suiteId : Text} (hsuite : Name.IsSafeText suiteId) :
    declaresEncoding ("# Suite: " ++ Text.collapse suiteId) = false := by
  change mentionsCoding (Text.collapse suiteId) = false
  by_contra hmentions
  rcases mem_of_mentionsCoding (Bool.not_eq_false _ ▸ hmentions) with hmem | hmem
  · exact absurd (hsuite _ ((Text.mem_collapse_iff (by decide)).mp hmem)) (by decide)
  · exact absurd (hsuite _ ((Text.mem_collapse_iff (by decide)).mp hmem)) (by decide)

/-- The characters that only a text can bring into a file: code is spelled with the printing
characters of ASCII, and remarks have no other blanks than spaces. -/
structure IsForeign (c : CodePoint) : Prop where
  notPlain : Text.isPlainAscii c = false
  notBlank : Text.isBlank c = false

theorem isForeign_null : IsForeign '\x00' := ⟨by decide, by decide⟩

namespace IsForeign

variable {c : CodePoint} (hc : IsForeign c)

include hc

theorem not_mem_of_isPlainAscii {s : Text} (hs : ∀ d ∈ s, Text.isPlainAscii d = true) : c ∉ s :=
  fun hmem => absurd (hs c hmem) (by simp [hc.notPlain])

theorem mem_file_iff {lines : List Line} :
    c ∈ Line.file lines ↔ ∃ line ∈ lines, c ∈ line.text := by
  have hend : c ∉ ("\n" : Text) := fun hmem => by
    obtain rfl := List.mem_singleton.mp hmem
    exact absurd hc.notBlank (by decide)
  simp [Line.file, hend]

theorem mem_remark_iff {indent : Nat} {text : Text} :
    c ∈ (Line.remark indent text).text ↔ c ∈ text := by
  have hmark : c ∉ Line.indentation indent ++ "# " := by
    rw [List.mem_append, not_or]
    refine ⟨fun hmem => ?_, hc.not_mem_of_isPlainAscii (by decide)⟩
    obtain rfl := (List.mem_replicate.mp hmem).2
    exact absurd hc.notBlank (by decide)
  rw [Line.text, List.mem_append, or_iff_right hmark]

theorem mem_note_iff {indent : Nat} {word s : Text}
    (hword : ∀ d ∈ word, Text.isPlainAscii d = true) :
    c ∈ (Line.note indent word s).text ↔ c ∈ s := by
  rw [Line.note, hc.mem_remark_iff, List.mem_append,
    or_iff_right (hc.not_mem_of_isPlainAscii hword), Text.mem_collapse_iff hc.notBlank]

theorem not_mem_code {scenario : Scenario} {indent : Nat} {code : Text}
    (hline : IsSuiteLine scenario (.code indent code)) : c ∉ (Line.code indent code).text := by
  obtain ⟨names, hnames, htidy⟩ := hline.exists_isTidy
  exact hc.not_mem_of_isPlainAscii (htidy.written_code.isPlainAscii_of_mem hnames)

theorem not_mem_block_iff {scenario : Scenario} {object : Text} {block : Block}
    (hcode : IsSuiteLine scenario (.code 4 (block.statement.code object))) :
    (∀ line ∈ block.lines object, c ∉ line.text) ↔
      c ∉ block.remark ∧ ∀ warning ∈ block.warnings, c ∉ warning := by
  have hlabel : ∀ d ∈ block.action.label, Text.isPlainAscii d = true := by
    cases block.action <;> decide
  have hnumber : ∀ d ∈ (toString block.number : Text), Text.isPlainAscii d = true := fun d hd =>
    Name.isPlainAscii_of_isSafe (Name.isSafeText_number block.number d hd)
  have hword : ∀ d ∈ ("Step " ++ toString block.number ++ ": " ++ block.action.label ++ " " : Text),
      Text.isPlainAscii d = true := by
    simp only [List.forall_mem_append]
    exact ⟨⟨⟨⟨by decide, hnumber⟩, by decide⟩, hlabel⟩, by decide⟩
  have hwarning : ∀ d ∈ ("WARNING: " : Text), Text.isPlainAscii d = true := by decide
  rw [Block.forall_mem_lines, hc.mem_note_iff hword]
  simp only [hc.mem_note_iff hwarning, hc.not_mem_code hcode, not_false_iff, and_true]

theorem mem_scenarioRemark_iff (indent : Nat) (name id : Text) :
    c ∈ (Line.remark indent ("Scenario: " ++ Text.collapse name ++
      " (" ++ Text.collapse id ++ ")")).text ↔ c ∈ name ∨ c ∈ id := by
  have hword : c ∉ ("Scenario: " : Text) := hc.not_mem_of_isPlainAscii (by decide)
  have hopening : c ∉ (" (" : Text) := hc.not_mem_of_isPlainAscii (by decide)
  have hclosing : c ∉ (")" : Text) := hc.not_mem_of_isPlainAscii (by decide)
  simp [hc.mem_remark_iff, Text.mem_collapse_iff hc.notBlank, hword, hopening, hclosing]

theorem mem_tagsRemark_iff (indent : Nat) (tags : List Text) :
    c ∈ (Line.note indent "Tags: " ((", " : Text).intercalate tags)).text ↔
      ∃ tag ∈ tags, c ∈ tag := by
  rw [hc.mem_note_iff (by decide),
    Text.mem_intercalate_iff (hc.not_mem_of_isPlainAscii (by decide))]

end IsForeign

/-- The texts of which a test has remarks. -/
def remarkedTexts (scenario : Scenario) (outcomes : List Outcome) : List Text :=
  [scenario.name, scenario.id] ++ scenario.tags ++ [scenario.description?.getD ""] ++
  scenario.steps.zipIdx.flatMap fun (step, index) =>
    (if step.description = "" then step.target else step.description) ::
      Block.warningsFor index outcomes

theorem forall_mem_remarkedTexts {scenario : Scenario} {outcomes : List Outcome} {P : Text → Prop} :
    (∀ text ∈ remarkedTexts scenario outcomes, P text) ↔
      (P scenario.name ∧ P scenario.id) ∧ (∀ tag ∈ scenario.tags, P tag) ∧
      P (scenario.description?.getD "") ∧
      ∀ item ∈ scenario.steps.zipIdx,
        P (if item.1.description = "" then item.1.target else item.1.description) ∧
        ∀ warning ∈ Block.warningsFor item.2 outcomes, P warning := by
  simp only [remarkedTexts, List.forall_mem_append, List.forall_mem_cons, List.forall_mem_flatMap,
    List.not_mem_nil, false_imp_iff, implies_true, true_and, and_assoc]

/-- A character that no code has is in a test if, and only if, it is in a text of which the
test has a remark. -/
theorem IsForeign.mem_testSource_iff {c : CodePoint} (hc : IsForeign c) (scenario : Scenario)
    (options : Options) (outcomes : List Outcome) :
    c ∈ (ofScenario scenario options outcomes).artifact.testSource ↔
      ∃ text ∈ remarkedTexts scenario outcomes, c ∈ text := by
  have hlines := isSuiteLine_test scenario options outcomes
  change c ∈ Line.file (ofScenario scenario options outcomes).test.lines ↔ _
  -- Both sides are about every line, or every text, once they are denied.
  rw [hc.mem_file_iff, ← not_iff_not]
  push Not
  rw [TestModule.forall_mem_lines] at hlines ⊢
  obtain ⟨-, -, -, -, himports, hobject, -, hsignature, -, hbinding, hpass, hblocks⟩ := hlines
  have hheader : c ∉ Line.header.text :=
    hc.mem_remark_iff.not.mpr (hc.not_mem_of_isPlainAscii (by decide))
  have hsuite : c ∉ (Line.note 0 "Suite: " (suiteIdOf options scenario)).text := by
    rw [hc.mem_note_iff (by decide)]
    exact hc.not_mem_of_isPlainAscii fun d hd =>
      Name.isPlainAscii_of_isSafe (isSafeText_suiteIdOf options scenario d hd)
  have hscenario := hc.mem_scenarioRemark_iff 0 scenario.name scenario.id
  have htags := hc.mem_tagsRemark_iff 0 scenario.tags
  have hblock : ∀ item ∈ scenario.steps.zipIdx,
      (∀ line ∈ (Block.ofStep options.style
          (((objectWritten? scenario options).map PageObject.methods).getD []) outcomes item.2
          item.1).lines
        (((ofScenario scenario options outcomes).test.pageObject?.map Prod.fst).getD ""),
        c ∉ line.text) ↔
      c ∉ (if item.1.description = "" then item.1.target else item.1.description) ∧
        ∀ warning ∈ Block.warningsFor item.2 outcomes, c ∉ warning := fun item hitem =>
    hc.not_mem_block_iff (Block.forall_mem_lines.mp (hblocks _ (List.mem_map_of_mem hitem))).2.2
  rw [forall_mem_remarkedTexts]
  constructor
  · rintro ⟨-, -, hname, htag, -, -, -, -, hdescription, -, -, hsections⟩
    refine ⟨not_or.mp (hscenario.not.mp hname), ?_, ?_, fun item hitem => ?_⟩
    · intro tag hmem hc
      exact htag (List.ne_nil_of_mem hmem) (htags.mpr ⟨tag, hmem, hc⟩)
    · by_cases hnone : scenario.description?.getD "" = ""
      · rw [hnone]
        exact List.not_mem_nil
      · exact (hc.mem_note_iff (by decide)).not.mp (hdescription hnone)
    · exact (hblock item hitem).mp (hsections _ (List.mem_map_of_mem hitem))
  · rintro ⟨hname, htag, hdescription, hsections⟩
    refine ⟨hheader, hsuite, hscenario.not.mpr (not_or.mpr hname), fun _ hmem => ?_,
      hc.not_mem_code himports,
      fun names hnames => ⟨List.not_mem_nil, hc.not_mem_code (hobject names hnames).2⟩,
      List.not_mem_nil, hc.not_mem_code hsignature, fun _ => ?_,
      fun names hnames => hc.not_mem_code (hbinding names hnames),
      fun hnone => hc.not_mem_code (hpass hnone), fun block hmem => ?_⟩
    · obtain ⟨tag, htagMem, hmem⟩ := htags.mp hmem
      exact htag tag htagMem hmem
    · rw [hc.mem_note_iff (by decide)]
      exact hdescription
    · obtain ⟨item, hitem, rfl⟩ := List.mem_map.mp hmem
      exact (hblock item hitem).mpr (hsections item hitem)

theorem Method.ne_remark_of_mem_lines {method : Method} {style : Style} {line : Line}
    (hline : line ∈ method.lines style) (indent : Nat) (text : Text) :
    line ≠ .remark indent text := by
  rintro rfl
  unfold lines at hline
  simp only at hline
  split at hline <;> simp at hline

/-- Of the texts of a scenario, its page object has a remark on the name alone. -/
theorem IsForeign.mem_objectSource_iff {c : CodePoint} (hc : IsForeign c) {scenario : Scenario}
    {object : PageObject} (hobject : PageObject.ofScenario? scenario = some object)
    (style : Style) :
    c ∈ (SourceFile.ofPageObject style object).source ↔ c ∈ scenario.name := by
  have hlines : ∀ line ∈ object.lines style, IsSuiteLine scenario line := fun line hline =>
    .inl (PageObject.isTidy_lines_of_ofScenario? hobject style line hline)
  have hname : object.scenarioName = scenario.name := by
    rw [PageObject.eq_of_ofScenario? hobject]
  change c ∈ Line.file (object.lines style) ↔ _
  rw [hc.mem_file_iff, ← not_iff_not]
  push Not
  rw [PageObject.forall_mem_lines] at hlines ⊢
  obtain ⟨-, -, himports, -, hclass, hinit, hpage, hmethods⟩ := hlines
  have hheader : c ∉ Line.header.text :=
    hc.mem_remark_iff.not.mpr (hc.not_mem_of_isPlainAscii (by decide))
  have hmethodLines : ∀ method ∈ object.methods, ∀ line ∈ method.lines style, c ∉ line.text := by
    intro method hmethod line hline
    cases line with
    | empty => exact List.not_mem_nil
    | remark indent text => exact absurd rfl (Method.ne_remark_of_mem_lines hline indent text)
    | code indent text => exact hc.not_mem_code (hmethods method hmethod _ hline)
  rw [hname, hc.mem_note_iff (by decide)]
  exact ⟨fun h => h.2.1, fun h => ⟨hheader, h, hc.not_mem_code himports, List.not_mem_nil,
    hc.not_mem_code hclass, hc.not_mem_code hinit, hc.not_mem_code hpage, hmethodLines⟩⟩

theorem declaresEncoding_testSource (scenario : Scenario) (options : Options)
    (outcomes : List Outcome) :
    ∀ line ∈ (linesOf (ofScenario scenario options outcomes).artifact.testSource).take 2,
      declaresEncoding line = false := by
  rw [linesOf_testSource]
  intro line hline
  have hfirst : line ∈ [("# Generated by scenarioforge. Do not edit by hand." : Text),
    "# Suite: " ++ Text.collapse (suiteIdOf options scenario)] := hline
  rcases List.mem_pair.mp hfirst with rfl | rfl
  · decide +kernel
  · exact declaresEncoding_suite (isSafeText_suiteIdOf options scenario)

/-- The name of a scenario gets into the second line of its page object. -/
theorem declaresEncoding_objectSource {scenario : Scenario} {object : PageObject}
    (hobject : PageObject.ofScenario? scenario = some object) (style : Style) :
    (∀ line ∈ (linesOf (SourceFile.ofPageObject style object).source).take 2,
      declaresEncoding line = false) ↔ mentionsCoding (Text.collapse scenario.name) = false := by
  have hname : object.scenarioName = scenario.name := by
    rw [PageObject.eq_of_ofScenario? hobject]
  have hheader : declaresEncoding "# Generated by scenarioforge. Do not edit by hand." = false := by
    decide +kernel
  have hfirst : (linesOf (SourceFile.ofPageObject style object).source).take 2 =
      [("# Generated by scenarioforge. Do not edit by hand." : Text),
        "# Page object for scenario: " ++ Text.collapse scenario.name] := by
    rw [PageObject.linesOf_source_eq hobject, ← hname]
    rfl
  rw [hfirst, List.forall_mem_cons, and_iff_right hheader, List.forall_mem_singleton,
    declaresEncoding_note]

/-- A test can be loaded as UTF-8 if, and only if, no text of which it has a remark holds
U+0000, and a page object if, and only if, the name of its scenario neither holds U+0000 nor
names an encoding. -/
theorem compile_loadable_iff {scenario : Scenario} {options : Options} {outcomes : List Outcome}
    {artifact : Artifact} (hartifact : compile scenario options outcomes = .ok artifact) :
    (IsLoadable artifact.testSource ↔
      ∀ text ∈ remarkedTexts scenario outcomes, .char '\x00' ∉ text) ∧
    ∀ file ∈ artifact.pageObjects, IsLoadable file.source ↔
      .char '\x00' ∉ scenario.name ∧ mentionsCoding (Text.collapse scenario.name) = false := by
  obtain ⟨-, rfl⟩ := compile_eq_ok_iff.mp hartifact
  have hnull := isForeign_null.mem_testSource_iff scenario options outcomes
  have hencoding := declaresEncoding_testSource scenario options outcomes
  refine ⟨⟨fun h text htext hmem => h.noNull (hnull.mpr ⟨text, htext, hmem⟩),
    fun h => ⟨?_, hencoding⟩⟩, fun file hfile => ?_⟩
  · intro hmem
    obtain ⟨text, htext, hmem⟩ := hnull.mp hmem
    exact h text htext hmem
  · obtain ⟨object, hwritten, rfl⟩ := Option.map_eq_some_iff.mp (Option.mem_toList.mp hfile)
    have hobject := Compiled.ofScenario?_of_pageObject? hwritten
    have hname := isForeign_null.mem_objectSource_iff hobject options.style
    have hdeclared := declaresEncoding_objectSource hobject options.style
    exact ⟨fun h => ⟨hname.not.mp h.noNull, hdeclared.mp h.noEncoding⟩,
      fun h => ⟨hname.not.mpr h.1, hdeclared.mpr h.2⟩⟩

theorem compile_searchScenario_loadable :
    ∃ artifact, compile searchScenario .standard [] = .ok artifact ∧
      artifact.pageObjects.length = 1 ∧ IsLoadable artifact.testSource ∧
      ∀ file ∈ artifact.pageObjects, IsLoadable file.source := by
  have hok : compile searchScenario .standard [] =
      .ok (ofScenario searchScenario .standard []).artifact := by rfl
  obtain ⟨htest, hobjects⟩ := compile_loadable_iff hok
  refine ⟨_, hok, by rfl, htest.mpr (by decide +kernel), fun file hfile => ?_⟩
  exact (hobjects file hfile).mpr (by decide +kernel)

/-- A scenario with the name of a codec in its own name, and with U+0000 in its description. -/
def codecScenario : Scenario where
  id := "s-1"
  name := "coding: latin-1"
  description? := some "a\x00b"
  steps := [⟨.click, "#a", none, ""⟩, ⟨.click, "#a", none, ""⟩]
  tags := []

theorem compile_codecScenario_unloadable :
    ∃ artifact, compile codecScenario .standard [] = .ok artifact ∧
      ¬ IsLoadable artifact.testSource ∧
      ∃ file ∈ artifact.pageObjects, ¬ IsLoadable file.source := by
  obtain ⟨object, hobject⟩ : ∃ object, PageObject.ofScenario? codecScenario = some object :=
    ⟨_, rfl⟩
  have hfile : SourceFile.ofPageObject .locator object ∈
      (ofScenario codecScenario .standard []).artifact.pageObjects := by
    change _ ∈ ((PageObject.ofScenario? codecScenario).map _).toList
    rw [hobject]
    exact List.mem_singleton_self _
  refine ⟨_, by rfl, fun htest => ?_, _, hfile, fun hloadable => ?_⟩
  · refine htest.noNull ((isForeign_null.mem_testSource_iff codecScenario .standard []).mpr ?_)
    exact ⟨"a\x00b", by decide +kernel, by decide⟩
  · have hcoding := (declaresEncoding_objectSource hobject .locator).mp hloadable.noEncoding
    exact absurd hcoding (by decide +kernel)

end Suite

end PageScript
