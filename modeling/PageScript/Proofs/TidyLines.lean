import PageScript.Proofs.FileLines
import PageScript.Proofs.SharedMethods
import PageScript.Proofs.WrittenCode

namespace PageScript

/-- The milliseconds that a step waits, if it does nothing else. -/
def Step.pause? (step : Step) : Option Nat :=
  if step.action = .wait then step.targetDigits?.map Text.numberOf else none

theorem Step.pause?_eq_some_iff {step : Step} {milliseconds : Nat} :
    step.pause? = some milliseconds ↔ step.action = .wait ∧ ∃ digits,
      step.targetDigits? = some digits ∧ Text.numberOf digits = milliseconds := by
  unfold Step.pause?
  split <;> simp_all

theorem Step.pause?_eq_none_iff {step : Step} : step.pause? = none ↔ ¬ step.IsPause := by
  unfold pause? IsPause targetDigits?
  by_cases haction : step.action = .wait <;> simp [haction]

def Text.IsSpaced (s : Text) : Prop := ∀ c ∈ s, isBlank c = true → c = ' '

namespace Text

instance (s : Text) : Decidable (IsSpaced s) :=
  inferInstanceAs (Decidable (∀ c ∈ s, isBlank c = true → c = ' '))

@[simp] theorem isSpaced_append {s t : Text} : IsSpaced (s ++ t) ↔ IsSpaced s ∧ IsSpaced t :=
  List.forall_mem_append

theorem isSpaced_of_isPlainAscii {s : Text} (hs : ∀ c ∈ s, isPlainAscii c = true) :
    IsSpaced s := by
  intro c hc hblank
  have all : ∀ n : Fin 0x80, isPlainAscii (.char (Char.ofNat n)) = true →
      isBlank (.char (Char.ofNat n)) = true → CodePoint.char (Char.ofNat n) = ' ' := by decide
  have hplain := hs c hc
  have hlt : c.toNat < 0x80 := by
    simp only [isPlainAscii, Bool.and_eq_true, decide_eq_true_eq] at hplain
    omega
  obtain ⟨n, rfl⟩ := Name.exists_char_of_toNat_lt hlt
  exact all n hplain hblank

theorem isSpaced_of_isSafeText {s : Text} (hs : Name.IsSafeText s) : IsSpaced s :=
  isSpaced_of_isPlainAscii fun c hc => Name.isPlainAscii_of_isSafe (hs c hc)

@[simp] theorem isSpaced_number (n : Nat) : IsSpaced (toString n) :=
  isSpaced_of_isSafeText (Name.isSafeText_number n)

@[simp] theorem isSpaced_label (action : Action) : IsSpaced action.label := by
  cases action <;> decide

theorem mem_intercalate_iff {sep : Text} {parts : List Text} {c : CodePoint} (hc : c ∉ sep) :
    c ∈ sep.intercalate parts ↔ ∃ part ∈ parts, c ∈ part := by
  induction parts with
  | nil => simp [List.intercalate]
  | cons part parts ih =>
      cases parts with
      | nil => simp [List.intercalate]
      | cons next parts =>
          rw [List.intercalate_cons_cons, List.mem_append, List.mem_append, ih, or_iff_left hc]
          exact (List.exists_mem_cons_iff _ part (next :: parts)).symm

theorem isBlank_eq_false_of_mem_wordsAfter {s word read : Text}
    (hread : ∀ c ∈ read, isBlank c = false) (hword : word ∈ wordsAfter read s) :
    ∀ c ∈ word, isBlank c = false := by
  have hreverse : ∀ c ∈ read.reverse, isBlank c = false := fun c hc =>
    hread c (List.mem_reverse.mp hc)
  induction s generalizing read with
  | nil =>
      unfold wordsAfter at hword
      split at hword
      · exact absurd hword List.not_mem_nil
      · obtain rfl := List.mem_singleton.mp hword
        exact hreverse
  | cons c s ih =>
      unfold wordsAfter at hword
      split at hword
      · split at hword
        · exact ih (by simp) hword (by simp)
        · rcases List.mem_cons.mp hword with rfl | hword
          · exact hreverse
          · exact ih (by simp) hword (by simp)
      · rename_i hblank
        have hmore : ∀ d ∈ c :: read, isBlank d = false :=
          List.forall_mem_cons.mpr ⟨Bool.eq_false_iff.mpr hblank, hread⟩
        exact ih hmore hword fun d hd => hmore d (List.mem_reverse.mp hd)

@[simp] theorem isSpaced_collapse (s : Text) : IsSpaced (collapse s) := by
  intro c hc hblank
  by_contra hne
  have hspace : c ∉ (" " : Text) := fun hmem => hne (List.mem_singleton.mp hmem)
  obtain ⟨word, hword, hc⟩ := (mem_intercalate_iff hspace).mp hc
  have hsolid := isBlank_eq_false_of_mem_wordsAfter (by simp) hword c hc
  exact absurd (hblank.symm.trans hsolid) (by decide)

end Text

namespace Suite

theorem isOneLine_of_isSpaced {s : Text} (hs : Text.IsSpaced s) : IsOneLine s := by
  rintro c hc rfl
  exact absurd (hs _ hc (by decide)) (by decide)

/-- A line that is what it looks like: code that is made of words, literals and `names`,
or a remark with no other blanks than spaces. -/
def Line.IsTidy (names : List Text) : Line → Prop
  | .empty => True
  | .remark _ text => Text.IsSpaced text
  | .code indent text => 4 ∣ indent ∧ Written names text

theorem written_indentation {names : List Text} {n : Nat} (hn : 4 ∣ n) :
    Written names (Line.indentation n) := by
  obtain ⟨k, rfl⟩ := hn
  induction k with
  | zero => exact .nil
  | succ k ih =>
      have hsplit : Line.indentation (4 * (k + 1)) = "    " ++ Line.indentation (4 * k) := by
        rw [Nat.mul_succ, Nat.add_comm, Line.indentation, List.replicate_add]
        rfl
      rw [hsplit]
      exact .word List.mem_cons_self ih

theorem all_isBlank_indentation (n : Nat) : (Line.indentation n).all Text.isBlank = true := by
  rw [Line.indentation, List.all_replicate]
  simp [show Text.isBlank ' ' = true by decide]

theorem isRemark_text_remark (indent : Nat) (text : Text) :
    isRemark (Line.remark indent text).text = true := by
  rw [Line.text, List.append_assoc, isRemark_append, all_isBlank_indentation, if_pos rfl]
  rfl

theorem isTidy_note {names : List Text} {indent : Nat} {word : Text} (hword : Text.IsSpaced word)
    {s : Text} : (Line.note indent word s).IsTidy names :=
  Text.isSpaced_append.mpr ⟨hword, Text.isSpaced_collapse s⟩

theorem isTidy_header {names : List Text} : Line.header.IsTidy names :=
  show Text.IsSpaced "Generated by scenarioforge. Do not edit by hand." by decide

theorem isTidy_imports {names : List Text} : Line.imports.IsTidy names :=
  ⟨by decide, .ofFrameWord (by simp [frameWords])⟩

theorem Line.IsTidy.written_code {names : List Text} {indent : Nat} {code : Text}
    (hline : (Line.code indent code).IsTidy names) : Written names (Line.code indent code).text :=
  (written_indentation hline.1).append hline.2

theorem Line.IsTidy.isRemark_or_written {names : List Text} {line : Line}
    (hline : line.IsTidy names) :
    isRemark line.text = true ∨ Written names line.text := by
  cases line with
  | empty => exact .inr .nil
  | remark indent text => exact .inl (isRemark_text_remark indent text)
  | code indent text => exact .inr hline.written_code

theorem Line.IsTidy.isSpaced_text {names : List Text}
    (hnames : ∀ name ∈ names, Name.IsSafeText name) {line : Line} (hline : line.IsTidy names) :
    Text.IsSpaced line.text := by
  cases line with
  | empty => decide
  | remark indent text =>
      have hindent : Text.IsSpaced (Line.indentation indent) := fun c hc _ =>
        (List.mem_replicate.mp hc).2
      rw [Line.text, Text.isSpaced_append, Text.isSpaced_append]
      exact ⟨⟨hindent, by decide⟩, hline⟩
  | code indent code =>
      exact Text.isSpaced_of_isPlainAscii (hline.written_code.isPlainAscii_of_mem hnames)

/-- The names that the code of a scenario is given: those of its test function, of its page
object with its class, and of the methods. -/
def generatedNames (scenario : Scenario) : List Text :=
  [Name.moduleName scenario.name, Name.uniqueModuleName scenario.name ++ "_page",
    Name.className (Name.uniqueModuleName scenario.name) ++ "Page"] ++
  (Method.ofSteps scenario.steps).map Method.name

theorem isSafeText_of_mem_generatedNames {scenario : Scenario} :
    ∀ name ∈ generatedNames scenario, Name.IsSafeText name := by
  have hbase := Name.isSafeText_uniqueModuleName scenario.name
  have hclass := Name.isSafeText_className (Name.uniqueModuleName scenario.name)
  simp only [generatedNames, List.forall_mem_append, List.forall_mem_cons, List.forall_mem_map]
  refine ⟨⟨Name.isSafeText_moduleName scenario.name, hbase.append (by decide),
    hclass.append (by decide), by simp⟩, fun method hmethod => ?_⟩
  exact (Method.isFor_of_mem hmethod).name.safe

theorem Call.onElement_ne_pause (action : Action) (element : Locator) (argument : Argument)
    (milliseconds : Nat) : onElement action element argument ≠ .pause milliseconds := by
  cases action <;> simp [onElement]

/-- A step that only waits is a pause, and no other step is. -/
theorem Call.ofStep_cases (style : Style) (step : Step) (argument : Argument) :
    (∃ milliseconds, step.pause? = some milliseconds ∧
      ofStep style step argument = .pause milliseconds) ∨
    (step.pause? = none ∧
      ∀ milliseconds, ofStep style step argument ≠ .pause milliseconds) := by
  unfold Step.pause? ofStep
  cases step.action with
  | wait =>
      cases step.targetDigits? with
      | some digits => exact .inl ⟨Text.numberOf digits, rfl, rfl⟩
      | none => exact .inr ⟨rfl, fun milliseconds => onElement_ne_pause _ _ _ milliseconds⟩
  | goto => exact .inr ⟨rfl, fun _ => nofun⟩
  | fill | click | expect | type | select | hover =>
      exact .inr ⟨rfl, fun milliseconds => onElement_ne_pause _ _ _ milliseconds⟩

/-- A line in the files of a scenario: one that names nothing but what the scenario is
given names for, or the pause of a step. -/
def IsSuiteLine (scenario : Scenario) (line : Line) : Prop :=
  line.IsTidy (generatedNames scenario) ∨ ∃ step ∈ scenario.steps, ∃ milliseconds,
    step.pause? = some milliseconds ∧ line = .code 4 ((Call.pause milliseconds).code "page")

theorem Method.isTidy_lines {names : List Text} {method : Method} (hname : method.name ∈ names)
    (style : Style) : ∀ line ∈ method.lines style, line.IsTidy names := by
  have hdef : Written names ("def " ++ method.name) :=
    (Written.ofFrameWord (by simp [frameWords])).append (.ofName hname)
  have helement : Written names ((Locator.ofTarget style method.use.target).code "self.page") :=
    Locator.written_code .ofObject _
  have hcall : Written names
      ((Call.onElement method.action (.ofTarget style method.use.target) .parameter).code
        "self.page") :=
    Call.written_code .ofObject fun n hpause => absurd hpause (Call.onElement_ne_pause _ _ _ n)
  unfold lines
  simp only
  split
  · simp only [List.forall_mem_cons, Line.IsTidy]
    refine ⟨trivial, ⟨by decide, hdef.append (.ofFrameWord (by simp [frameWords]))⟩,
      ⟨by decide, (Written.ofFrameWord (by simp [frameWords])).append helement⟩,
      ⟨by decide, .ofFrameWord (by simp [frameWords])⟩,
      ⟨by decide, .ofFrameWord (by simp [frameWords])⟩,
      ⟨by decide, .ofFrameWord (by simp [frameWords])⟩,
      ⟨by decide, .ofFrameWord (by simp [frameWords])⟩, by simp⟩
  · have hparameter : Written names
        (Text.ofString (if method.action.needsData then ", value: str" else "")) := by
      split
      · exact .ofFrameWord (by simp [frameWords])
      · exact .nil
    have hbegin : Written names ("def " ++ method.name ++ "(self") :=
      hdef.append (.ofFrameWord (by simp [frameWords]))
    have hend : Written names "):" := .ofFrameWord (by simp [frameWords])
    simp only [List.forall_mem_cons, Line.IsTidy]
    exact ⟨trivial, ⟨by decide, (hbegin.append hparameter).append hend⟩, ⟨by decide, hcall⟩,
      by simp⟩

theorem PageObject.isTidy_lines {names : List Text} {object : PageObject}
    (hclass : object.className ∈ names) (hmethods : ∀ method ∈ object.methods, method.name ∈ names)
    (style : Style) : ∀ line ∈ object.lines style, line.IsTidy names := by
  have hbegin : Written names ("class " ++ object.className) :=
    (Written.ofFrameWord (by simp [frameWords])).append (.ofName hclass)
  have hcolon : Written names ":" := .ofFrameWord (by simp [frameWords])
  rw [forall_mem_lines]
  exact ⟨isTidy_header, isTidy_note (by decide), isTidy_imports, trivial,
    ⟨by decide, hbegin.append hcolon⟩, ⟨by decide, .ofFrameWord (by simp [frameWords])⟩,
    ⟨by decide, .ofFrameWord (by simp [frameWords])⟩,
    fun method hmethod => Method.isTidy_lines (hmethods method hmethod) style⟩

theorem PageObject.isTidy_lines_of_ofScenario? {scenario : Scenario} {object : PageObject}
    (hobject : ofScenario? scenario = some object) (style : Style) :
    ∀ line ∈ object.lines style, line.IsTidy (generatedNames scenario) := by
  obtain rfl := eq_of_ofScenario? hobject
  have hmethods : ∀ method ∈ Method.ofSteps scenario.steps,
      method.name ∈ generatedNames scenario := fun method hmethod =>
    List.mem_append_right _ (List.mem_map_of_mem hmethod)
  exact isTidy_lines (by simp [generatedNames]) hmethods style

theorem Statement.pause_or_written {scenario : Scenario} {methods : List Method} {object : Text}
    (hobject : methods ≠ [] → object ∈ generatedNames scenario)
    (hmethods : ∀ method ∈ methods, method.name ∈ generatedNames scenario) (style : Style)
    (step : Step) :
    (∃ milliseconds, step.pause? = some milliseconds ∧
      ofStep style methods step = .call (.pause milliseconds)) ∨
    Written (generatedNames scenario) ((ofStep style methods step).code object) := by
  cases hfind : Method.find? methods (.ofStep step) with
  | some method =>
      have hmem : method ∈ methods := List.mem_of_find?_eq_some hfind
      have hstatement : ofStep style methods step =
          .method method.name (data? step) (method.isMixed && step.action == .type) := by
        rw [ofStep, hfind]
      refine .inr (written_code ?_ ?_)
      · simp [hstatement]
      · intro name data? sequentially heq
        obtain ⟨rfl, -, -⟩ := Statement.method.inj (hstatement.symm.trans heq)
        exact ⟨hobject (List.ne_nil_of_mem hmem), hmethods method hmem⟩
  | none =>
      have hstatement : ofStep style methods step =
          .call (.ofStep style step (.literal (step.data?.getD ""))) := by
        rw [ofStep, hfind]
      -- The number of a pause is made for it alone, so it is none of the names.
      rcases Call.ofStep_cases style step (.literal (step.data?.getD "")) with
        ⟨n, hpause, hcall⟩ | ⟨-, hcall⟩
      · exact .inl ⟨n, hpause, by rw [hstatement, hcall]⟩
      · refine .inr (written_code ?_ ?_)
        · intro n heq
          exact absurd (Statement.call.inj (hstatement.symm.trans heq)) (hcall n)
        · simp [hstatement]

theorem isSuiteLine_block {scenario : Scenario} {object : Text} {block : Block}
    (hcode : IsSuiteLine scenario (.code 4 (block.statement.code object))) :
    ∀ line ∈ block.lines object, IsSuiteLine scenario line := by
  have hnumbered : Text.IsSpaced
      ("Step " ++ toString block.number ++ ": " ++ block.action.label ++ " ") := by
    simp only [Text.isSpaced_append, Text.isSpaced_number, Text.isSpaced_label, and_true]
    decide
  rw [Block.forall_mem_lines]
  exact ⟨.inl (isTidy_note hnumbered), fun _ _ => .inl (isTidy_note (by decide)), hcode⟩

theorem Compiled.mem_generatedNames (scenario : Scenario) (options : Options)
    (outcomes : List Outcome) :
    let suite := ofScenario scenario options outcomes
    let methods := (suite.pageObject?.map PageObject.methods).getD []
    (∀ names ∈ suite.test.pageObject?,
      names.1 ∈ generatedNames scenario ∧ names.2 ∈ generatedNames scenario) ∧
    (methods ≠ [] → (suite.test.pageObject?.map Prod.fst).getD "" ∈ generatedNames scenario) ∧
    ∀ method ∈ methods, method.name ∈ generatedNames scenario := by
  intro suite methods
  have htest : suite.test.pageObject? =
      suite.pageObject?.map fun object => (object.moduleName, object.className) := rfl
  cases hobject : suite.pageObject? with
  | none => simp [methods, htest, hobject]
  | some object =>
      obtain rfl := PageObject.eq_of_ofScenario? (ofScenario?_of_pageObject? hobject)
      have hmethods : ∀ method ∈ Method.ofSteps scenario.steps,
          method.name ∈ generatedNames scenario := fun method hmethod =>
        List.mem_append_right _ (List.mem_map_of_mem hmethod)
      simpa [methods, htest, hobject, generatedNames] using hmethods

theorem isSuiteLine_test (scenario : Scenario) (options : Options) (outcomes : List Outcome) :
    ∀ line ∈ (ofScenario scenario options outcomes).test.lines, IsSuiteLine scenario line := by
  obtain ⟨hobject, hcalled, hmethods⟩ := Compiled.mem_generatedNames scenario options outcomes
  have hfunction : Written (generatedNames scenario)
      ("def test_" ++ Name.moduleName scenario.name ++ "(page: Page):") :=
    ((Written.ofFrameWord (by simp [frameWords])).append
      (.ofName (by simp [generatedNames]))).append (.ofFrameWord (by simp [frameWords]))
  rw [TestModule.forall_mem_lines]
  refine ⟨.inl isTidy_header, .inl (isTidy_note (by decide)), .inl ?_,
    fun _ => .inl (isTidy_note (by decide)), .inl isTidy_imports,
    fun names hnames => ⟨.inl trivial, ?_⟩, .inl trivial, .inl ⟨by decide, hfunction⟩,
    fun _ => .inl (isTidy_note (by decide)),
    fun names hnames => .inl ⟨by decide, ?_⟩,
    fun _ => .inl ⟨by decide, .ofFrameWord (by simp [frameWords])⟩, fun block hblock => ?_⟩
  · simp only [Line.IsTidy, Text.isSpaced_append, Text.isSpaced_collapse, and_true]
    decide
  · obtain ⟨hmodule, hclass⟩ := hobject names hnames
    refine .inl ⟨by decide, ?_⟩
    exact (((Written.ofFrameWord (by simp [frameWords])).append (.ofName hmodule)).append
      (.ofFrameWord (by simp [frameWords]))).append (.ofName hclass)
  · obtain ⟨hmodule, hclass⟩ := hobject names hnames
    exact (((Written.ofName hmodule).append (.ofFrameWord (by simp [frameWords]))).append
      (.ofName hclass)).append (.ofFrameWord (by simp [frameWords]))
  · obtain ⟨step, hstep, hstatement⟩ := Compiled.mem_blocks hblock
    apply isSuiteLine_block
    rw [hstatement]
    rcases Statement.pause_or_written hcalled hmethods options.style step with
      ⟨milliseconds, hpause, hcall⟩ | hwritten
    · exact .inr ⟨step, hstep, milliseconds, hpause, by rw [hcall]; rfl⟩
    · exact .inl ⟨by decide, hwritten⟩

theorem IsSuiteLine.text_cases {scenario : Scenario} {line : Line}
    (hline : IsSuiteLine scenario line) :
    isRemark line.text = true ∨ Written (generatedNames scenario) line.text ∨
      ∃ step ∈ scenario.steps, ∃ milliseconds, step.pause? = some milliseconds ∧
        line.text = "    page.wait_for_timeout(" ++ toString milliseconds ++ ")" := by
  rcases hline with htidy | ⟨step, hstep, milliseconds, hpause, rfl⟩
  · rcases htidy.isRemark_or_written with hremark | hwritten
    · exact .inl hremark
    · exact .inr (.inl hwritten)
  · exact .inr (.inr ⟨step, hstep, milliseconds, hpause, rfl⟩)

/-- Once the number of a pause counts as a name, every line of a suite is tidy. -/
theorem IsSuiteLine.exists_isTidy {scenario : Scenario} {line : Line}
    (hline : IsSuiteLine scenario line) :
    ∃ names, (∀ name ∈ names, Name.IsSafeText name) ∧ line.IsTidy names := by
  rcases hline with htidy | ⟨step, -, milliseconds, -, rfl⟩
  · exact ⟨_, isSafeText_of_mem_generatedNames, htidy⟩
  · have hcall : Written [(toString milliseconds : Text)] ((Call.pause milliseconds).code "page") :=
      Call.written_code .ofTest fun n hpause => by
        obtain rfl := Call.pause.inj hpause
        exact List.mem_singleton_self _
    refine ⟨_, ?_, by decide, hcall⟩
    exact List.forall_mem_singleton.mpr (Name.isSafeText_number milliseconds)

theorem IsSuiteLine.isSpaced_text {scenario : Scenario} {line : Line}
    (hline : IsSuiteLine scenario line) : Text.IsSpaced line.text := by
  obtain ⟨names, hnames, htidy⟩ := hline.exists_isTidy
  exact htidy.isSpaced_text hnames

theorem isOneLine_test (scenario : Scenario) (options : Options) (outcomes : List Outcome) :
    ∀ line ∈ (ofScenario scenario options outcomes).test.lines, IsOneLine line.text :=
  fun line hline =>
    isOneLine_of_isSpaced (isSuiteLine_test scenario options outcomes line hline).isSpaced_text

theorem exists_lines_of_mem_files {scenario : Scenario} {options : Options}
    {outcomes : List Outcome} :
    ∀ file ∈ (ofScenario scenario options outcomes).artifact.files, ∃ lines,
      file.2 = Line.file lines ∧ ∀ line ∈ lines, IsSuiteLine scenario line := by
  intro file hfile
  rcases List.mem_append.mp hfile with hobject | htest
  · obtain ⟨source, hsource, rfl⟩ := List.mem_map.mp hobject
    obtain ⟨object, hwritten, rfl⟩ := Option.map_eq_some_iff.mp (Option.mem_toList.mp hsource)
    refine ⟨object.lines options.style, rfl, fun line hline => .inl ?_⟩
    exact PageObject.isTidy_lines_of_ofScenario? (Compiled.ofScenario?_of_pageObject? hwritten)
      options.style line hline
  · obtain rfl := List.mem_singleton.mp htest
    exact ⟨_, rfl, isSuiteLine_test scenario options outcomes⟩

theorem isBlank_cases_of_mem_file {lines : List Line}
    (hlines : ∀ line ∈ lines, Text.IsSpaced line.text) {c : CodePoint} (hc : c ∈ Line.file lines)
    (hblank : Text.isBlank c = true) : c = ' ' ∨ c = '\n' := by
  obtain ⟨text, htext, hc⟩ := List.mem_flatten.mp hc
  obtain ⟨line, hline, rfl⟩ := List.mem_map.mp htext
  rcases List.mem_append.mp hc with hc | hc
  · exact .inl (hlines line hline c hc hblank)
  · exact .inr (List.mem_singleton.mp hc)

end Suite

end PageScript
