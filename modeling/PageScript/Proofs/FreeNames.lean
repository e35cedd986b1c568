import PageScript.Proofs.CalledMethods
import PageScript.Proofs.SlugRuns
import PageScript.Proofs.SuiteLayout

namespace PageScript

namespace Name

/-- The class of a base begins with the letter that the base begins with, as a capital. -/
theorem exists_className_eq (text : Text) :
    ∃ c rest, className (uniqueModuleName text) = CodePoint.toUpper c :: rest ∧
      isSlugChar c = true ∧ c.isDigit = false := by
  have hkept := moduleName_uniqueModuleName text
  obtain ⟨runs, ⟨hne, hall⟩, hbase⟩ := (isSlug_uniqueModuleName text).exists_runs
  obtain ⟨run, runs, rfl⟩ := List.exists_cons_of_ne_nil hne
  have hrun := hall run List.mem_cons_self
  obtain ⟨c, rest, rfl⟩ := List.exists_cons_of_ne_nil hrun.nonempty
  have hhead : c ∈ (joinRuns ((c :: rest) :: runs)).head? := by
    cases runs with
    | nil => simp [joinRuns]
    | cons next runs => simp [joinRuns_cons]
  have hdigit := isDigit_head?_moduleName (uniqueModuleName text)
  rw [hkept, hbase] at hdigit
  rw [hbase] at hkept
  refine ⟨c, rest ++ runs.flatMap fun run => run.modifyHead CodePoint.toUpper, ?_,
    hrun.letters c List.mem_cons_self, hdigit c hhead⟩
  rw [hbase, className_joinRuns ⟨hne, hall⟩ hkept]
  rfl

theorem isDigit_toUpper {c : CodePoint} (hc : isSlugChar c = true) (hdigit : c.isDigit = false) :
    c.toUpper.isDigit = false := by
  have all : ∀ n : Fin 0x80, (CodePoint.char (Char.ofNat n)).isDigit = false →
      (CodePoint.char (Char.ofNat n)).toUpper.isDigit = false := by
    decide
  obtain ⟨n, rfl⟩ := exists_char_of_isSafe (isSafe_of_isSlugChar hc)
  exact all n hdigit

theorem test_append_moduleName_ne (text : Text) :
    "test_" ++ moduleName text ≠ uniqueModuleName text ++ "_page" := by
  rw [uniqueModuleName_eq_marked]
  by_cases hname : moduleName text = text
  · rw [marked_of_eq hname, id, hname]
    exact test_append_ne_append_page text
  · rw [marked_of_ne hname]
    intro h
    have hlength := congrArg List.length h
    simp only [List.length_append, length_digestSuffix] at hlength
    have htest : ("test_" : Text).length = 5 := rfl
    omega

theorem capital_not_mem_of_isSlug {s : Text} (hs : IsSlug s) : CodePoint.char 'P' ∉ s := by
  intro hmem
  exact absurd (hs.letters _ hmem) (by decide)

/-- Of the names of a suite, that of the class alone has a capital. -/
theorem ne_className {name : Text} (hname : CodePoint.char 'P' ∉ name) (text : Text) :
    name ≠ className text ++ "Page" := by
  intro h
  have hcapital : CodePoint.char 'P' ∈ ("Page" : Text) := by decide
  rw [h] at hname
  exact hname (List.mem_append_right _ hcapital)

end Name

namespace Suite

open Name (capital_not_mem_of_isSlug)

variable {scenario : Scenario} {options : Options} {outcomes : List Outcome} {artifact : Artifact}

/-- The words that cannot be names everywhere in code. -/
def reservedWords : List Text :=
  ["False", "None", "True", "and", "as", "assert", "async", "await", "break", "class", "continue",
   "def", "del", "elif", "else", "except", "finally", "for", "from", "global", "if", "import", "in",
   "is", "lambda", "nonlocal", "not", "or", "pass", "raise", "return", "try", "while", "with",
   "yield", "_", "case", "match", "type"]

/-- The names that all generated code has from elsewhere. -/
def givenNames : List Text :=
  ["page", "Page", "expect", "self", "__init__", "value", "sequentially", "locator", "playwright",
   "str", "bool"]

/-- A name that code can give to something of its own. -/
structure IsFreeName (name : Text) : Prop where
  nonempty : name ≠ []
  safe : Name.IsSafeText name
  start : ∀ c ∈ name.head?, c.isDigit = false
  reserved : name ∉ reservedWords
  given : name ∉ givenNames

/-- The module of a page object, which the object itself is called like, its class and the methods
of that. -/
structure ObjectNames where
  moduleName : Text
  className : Text
  methods : List Text

/-- All names of a page object can be given, beside that of the function that uses it. -/
structure ObjectNames.AreFree (function : Text) (object : ObjectNames) : Prop where
  moduleName : IsFreeName object.moduleName
  className : IsFreeName object.className
  methods : ∀ name ∈ object.methods, IsFreeName name
  apart : [function, object.moduleName, object.className].Nodup
  nodup : object.methods.Nodup

/-- Whether a line is code that stands at the edge, in no class and no function. -/
def isOuterCode : Text → Bool
  | [] => false
  | c :: _ => c != ' ' && c != '#'

def outerCode (source : Text) : List Text := (linesOf source).filter isOuterCode

/-- What the code of each file imports. -/
def libraryImport : Text := "from playwright.sync_api import Page, expect"

def ObjectNames.importLine (object : ObjectNames) : Text :=
  "from " ++ object.moduleName ++ " import " ++ object.className

def ObjectNames.bindingLine (object : ObjectNames) : Text :=
  "    " ++ object.moduleName ++ " = " ++ object.className ++ "(page)"

def ObjectNames.classLine (object : ObjectNames) : Text := "class " ++ object.className ++ ":"

def functionLine (function : Text) : Text := "def " ++ function ++ "(page: Page):"

/-- A line of a test that calls a method of its page object. -/
def ObjectNames.CallsMethod (object : ObjectNames) (name line : Text) : Prop :=
  ∃ arguments : Text, line = "    " ++ object.moduleName ++ "." ++ name ++ "(" ++ arguments

/-- A line of a test that does something on its page, or nothing. -/
inductive IsPageCall : Text → Prop
  | pass : IsPageCall "    pass"
  | page (rest : Text) : IsPageCall ("    page." ++ rest)
  | expect (rest : Text) : IsPageCall ("    expect(page." ++ rest)

/-- A file begins one function.  It imports the class of the page object, if there is one, makes an
object of it first, and calls all its methods and no others. -/
structure UsesNames (source function : Text) (object? : Option ObjectNames) : Prop where
  outer : outerCode source =
    libraryImport :: (object?.toList.map ObjectNames.importLine ++ [functionLine function])
  inner : ∃ calls, functionCode source = object?.toList.map ObjectNames.bindingLine ++ calls ∧
    ∀ line ∈ calls, IsPageCall line ∨
      ∃ object ∈ object?, ∃ name ∈ object.methods, object.CallsMethod name line
  called : ∀ object ∈ object?, ∀ name ∈ object.methods,
    ∃ line ∈ functionCode source, object.CallsMethod name line

/-- A file is the module of a page object: it begins one class, which has the methods. -/
structure DefinesNames (file : SourceFile) (object : ObjectNames) : Prop where
  name : file.name = object.moduleName
  outer : outerCode file.source = [libraryImport, object.classLine]
  methods : definedNames file.source = ("__init__" : Text) :: object.methods

theorem isFreeName_of_not_mem {name : Text} (hne : name ≠ []) (hsafe : Name.IsSafeText name)
    (hstart : ∀ c ∈ name.head?, c.isDigit = false)
    (hwords : name ∉ reservedWords ++ givenNames) : IsFreeName name := by
  rw [List.mem_append, not_or] at hwords
  exact ⟨hne, hsafe, hstart, hwords.1, hwords.2⟩

theorem isFreeName_of_prefix {front name : Text} (hsafe : Name.IsSafeText name)
    (hfront : front <+: name) (hne : front ≠ []) (hstart : ∀ c ∈ front.head?, c.isDigit = false)
    (hwords : ∀ word ∈ reservedWords ++ givenNames, ¬ front <+: word) : IsFreeName name := by
  obtain ⟨rest, rfl⟩ := hfront
  apply isFreeName_of_not_mem
  · exact List.append_ne_nil_of_left_ne_nil hne rest
  · exact hsafe
  · rwa [List.head?_append_of_ne_nil _ hne]
  · exact fun hmem => hwords _ hmem (List.prefix_append front rest)

theorem isFreeName_function (text : Text) : IsFreeName ("test_" ++ Name.moduleName text) := by
  have hsafe := Name.IsSafeText.append (s := "test_") (by decide) (Name.isSafeText_moduleName text)
  have hwords : ∀ word ∈ reservedWords ++ givenNames, ¬ ("test_" : Text) <+: word := by
    decide +kernel
  exact isFreeName_of_prefix hsafe (List.prefix_append _ _) (by decide) (by decide) hwords

theorem isFreeName_module (text : Text) : IsFreeName (Name.uniqueModuleName text ++ "_page") := by
  have hwords : ∀ word ∈ reservedWords ++ givenNames, ¬ ("_page" : Text) <:+ word := by
    decide +kernel
  apply isFreeName_of_not_mem
  · exact List.append_ne_nil_of_right_ne_nil _ (by decide)
  · exact (Name.isSafeText_uniqueModuleName text).append (by decide)
  · have hstart := Name.isDigit_head?_moduleName (Name.uniqueModuleName text)
    rw [Name.moduleName_uniqueModuleName] at hstart
    rwa [List.head?_append_of_ne_nil _ (Name.isSlug_uniqueModuleName text).nonempty]
  · exact fun hmem => hwords _ hmem (List.suffix_append _ _)

theorem isFreeName_class (text : Text) :
    IsFreeName (Name.className (Name.uniqueModuleName text) ++ "Page") := by
  have hsafe := Name.isSafeText_className (Name.uniqueModuleName text)
  obtain ⟨c, rest, hclass, hc, hdigit⟩ := Name.exists_className_eq text
  -- The only given name with this end is the end itself.
  have hwords : ∀ word ∈ reservedWords ++ givenNames,
      ("Page" : Text) <:+ word → word.length ≤ ("Page" : Text).length := by
    decide +kernel
  apply isFreeName_of_not_mem
  · exact List.append_ne_nil_of_right_ne_nil _ (by decide)
  · exact hsafe.append (by decide)
  · rw [hclass, List.cons_append]
    rintro d ⟨⟩
    exact Name.isDigit_toUpper hc hdigit
  · intro hmem
    have hlength := hwords _ hmem (List.suffix_append _ _)
    rw [List.length_append, hclass, List.length_cons] at hlength
    omega

theorem isFreeName_method {steps : List Step} {method : Method}
    (hmethod : method ∈ Method.ofSteps steps) : IsFreeName method.name := by
  obtain ⟨i, hi⟩ := List.getElem?_of_mem hmethod
  obtain ⟨action, -, hrenaming⟩ := Method.renaming_name hi
  have hprefix : (action.label ++ "_" : Text) <+: method.name := by
    have hwanted := Method.label_prefix_wantedName method.use action i
    rcases hrenaming.cases_name.2 with hname | ⟨number, hname⟩
    · rwa [hname]
    · rw [hname, Method.numbered, List.append_assoc]
      exact hwanted.trans (List.prefix_append _ _)
  have hlabels : ∀ action ∈ Action.all,
      (∀ c ∈ (action.label ++ "_" : Text).head?, c.isDigit = false) ∧
        ∀ word ∈ reservedWords ++ givenNames, ¬ (action.label ++ "_" : Text) <+: word := by
    decide +kernel
  obtain ⟨hstart, hwords⟩ := hlabels action (Action.mem_all action)
  apply isFreeName_of_prefix (Method.isFor_of_mem hmethod).name.safe hprefix _ hstart hwords
  exact List.append_ne_nil_of_right_ne_nil _ (List.cons_ne_nil _ _)

theorem nodup_suiteNames (text : Text) :
    ["test_" ++ Name.moduleName text, Name.uniqueModuleName text ++ "_page",
      Name.className (Name.uniqueModuleName text) ++ "Page"].Nodup := by
  have hfunction : CodePoint.char 'P' ∉ ("test_" ++ Name.moduleName text : Text) := by
    rw [List.mem_append, not_or]
    exact ⟨by decide, capital_not_mem_of_isSlug (Name.isSlug_moduleName text)⟩
  have hmodule : CodePoint.char 'P' ∉ (Name.uniqueModuleName text ++ "_page" : Text) := by
    rw [List.mem_append, not_or]
    exact ⟨capital_not_mem_of_isSlug (Name.isSlug_uniqueModuleName text), by decide⟩
  rw [List.nodup_cons, List.nodup_cons, List.mem_pair, List.mem_singleton, not_or]
  exact ⟨⟨Name.test_append_moduleName_ne text, Name.ne_className hfunction _⟩,
    Name.ne_className hmodule _, List.nodup_singleton _⟩

/-- What a page object is called in the files of its suite. -/
def PageObject.objectNames (object : PageObject) : ObjectNames :=
  ⟨object.moduleName, object.className, object.methods.map Method.name⟩

theorem PageObject.areFree_objectNames {object : PageObject}
    (hobject : PageObject.ofScenario? scenario = some object) :
    object.objectNames.AreFree ("test_" ++ Name.moduleName scenario.name) := by
  have hnodup := (isWritable_of_ofScenario? hobject).1.nodup
  obtain rfl := eq_of_ofScenario? hobject
  constructor
  · exact isFreeName_module scenario.name
  · exact isFreeName_class scenario.name
  · exact List.forall_mem_map.mpr fun method hmethod => isFreeName_method hmethod
  · exact nodup_suiteNames scenario.name
  · exact hnodup

theorem filter_preambleLines (scenario : Scenario) (suiteId : Text) (object? : Option PageObject) :
    (preambleLines scenario suiteId object?).filter isOuterCode =
      libraryImport :: (object?.map PageObject.objectNames).toList.map ObjectNames.importLine := by
  rw [preambleLines]
  by_cases htags : scenario.tags = [] <;> cases object? <;> simp only [htags, if_true, if_false] <;> rfl

theorem filter_openingLines (scenario : Scenario) (object? : Option PageObject) :
    (openingLines scenario object?).filter isOuterCode =
      [functionLine ("test_" ++ Name.moduleName scenario.name)] := by
  rw [openingLines]
  by_cases hdescription : scenario.description?.getD "" = "" <;> cases object? <;>
    simp only [hdescription, if_true, if_false] <;> rfl

theorem filter_sectionLines (style : Style) (object? : Option PageObject) (outcomes : List Outcome)
    (index : Nat) (step : Step) :
    (sectionLines style object? outcomes index step).filter isOuterCode = [] := by
  rw [sectionLines, List.filter_append, List.filter_cons_of_neg Bool.false_ne_true, List.filter_map]
  have hwarnings : (isOuterCode ∘ fun warning => "    # WARNING: " ++ Text.collapse warning) =
      fun _ => false := rfl
  rw [hwarnings, List.filter_false]
  rfl

theorem filter_bodyLines (style : Style) (object? : Option PageObject) (outcomes : List Outcome)
    (steps : List Step) :
    (if steps = [] then [("    pass" : Text)]
      else steps.zipIdx.flatMap fun (step, index) =>
        sectionLines style object? outcomes index step).filter isOuterCode = [] := by
  split
  · rfl
  · rw [List.filter_flatMap, List.flatMap_eq_nil_iff]
    exact fun item _ => filter_sectionLines style object? outcomes item.2 item.1

/-- The lines at the edge of a test tell what it imports and which function it begins. -/
theorem outerCode_testSource (scenario : Scenario) (options : Options) (outcomes : List Outcome) :
    outerCode (ofScenario scenario options outcomes).artifact.testSource =
      libraryImport :: (((objectWritten? scenario options).map PageObject.objectNames).toList.map
        ObjectNames.importLine ++ [functionLine ("test_" ++ Name.moduleName scenario.name)]) := by
  have hlast : ([[]] : List Text).filter isOuterCode = [] := rfl
  rw [outerCode, linesOf_testSource, testLines, List.filter_append, List.filter_append,
    List.filter_append, filter_preambleLines, filter_openingLines, filter_bodyLines, hlast,
    List.append_nil, List.append_nil, List.cons_append]

theorem filter_methodLines (style : Style) (method : Method) :
    ((method.lines style).map Line.text).filter isOuterCode = [] := by
  have hbody : (method.source style).body.filter isOuterCode = [] := by
    rw [List.filter_eq_nil_iff]
    intro line hline
    obtain ⟨rest, rfl⟩ := List.isPrefixOf_iff_prefix.mp (Method.isInMethod_of_mem_body hline).1
    exact Bool.false_ne_true
  rw [Method.map_text_lines, List.filter_cons_of_neg Bool.false_ne_true,
    List.filter_cons_of_neg Bool.false_ne_true, hbody]

theorem definesNames_ofPageObject {object : PageObject}
    (hobject : PageObject.ofScenario? scenario = some object) (style : Style) :
    DefinesNames (SourceFile.ofPageObject style object) object.objectNames := by
  have hmethods : (object.methods.flatMap fun method =>
      (method.lines style).map Line.text).filter isOuterCode = [] := by
    rw [List.filter_flatMap, List.flatMap_eq_nil_iff]
    exact fun method _ => filter_methodLines style method
  constructor
  · rfl
  · rw [outerCode, PageObject.linesOf_source_eq hobject, PageObject.textLines, List.filter_append,
      List.filter_append, hmethods]
    rfl
  · exact PageObject.definedNames_source (PageObject.isWritable_of_ofScenario? hobject).1 style

theorem isPageCall_code (call : Call) : IsPageCall (Line.indentation 4 ++ call.code "page") := by
  obtain ⟨rest, hcode | hcode⟩ := call.exists_code_eq
  · rw [hcode]
    exact .page rest
  · rw [hcode]
    exact .expect rest

theorem isPageCall_of_mem_stepLines {style : Style} {steps : List Step} {line : Text}
    (hline : line ∈ stepLines style steps) : IsPageCall line := by
  rw [stepLines] at hline
  split at hline
  · obtain rfl := List.mem_singleton.mp hline
    exact .pass
  · obtain ⟨step, -, rfl⟩ := List.mem_map.mp hline
    exact isPageCall_code _

theorem isPageCall_of_find?_eq_none {methods : List Method} {step : Step}
    (hfind : Method.find? methods (.ofStep step) = none) (style : Style) (object : Text) :
    IsPageCall (Line.indentation 4 ++ (Statement.ofStep style methods step).code object) := by
  rw [Statement.ofStep, hfind]
  exact isPageCall_code _

theorem callsMethod_of_find?_eq_some {object : PageObject} {step : Step} {method : Method}
    (hfind : Method.find? object.methods (.ofStep step) = some method) (style : Style) :
    object.objectNames.CallsMethod method.name
      (Line.indentation 4 ++ (Statement.ofStep style object.methods step).code object.moduleName) := by
  rw [Statement.ofStep, hfind]
  refine ⟨argumentsCode (Statement.data? step) (method.isMixed && step.action == .type), ?_⟩
  simp only [Statement.code, argumentsCode, List.append_assoc]
  rfl

theorem Method.exists_step_of_mem {steps : List Step} {method : Method}
    (hmethod : method ∈ Method.ofSteps steps) :
    ∃ step ∈ steps, Method.find? (Method.ofSteps steps) (.ofStep step) = some method := by
  have huse : method.use ∈ sharedUses steps := by
    rw [← Method.map_use_ofSteps]
    exact List.mem_map_of_mem hmethod
  have hused := List.mem_eraseDups.mp (List.mem_of_mem_filter huse)
  obtain ⟨step, hstep, hof⟩ := List.mem_map.mp hused
  refine ⟨step, List.mem_of_mem_filter hstep, ?_⟩
  rw [hof]
  exact Method.find?_eq_of_mem (Method.nodup_uses steps) hmethod

theorem usesNames_testSource (scenario : Scenario) (options : Options) (outcomes : List Outcome) :
    UsesNames (ofScenario scenario options outcomes).artifact.testSource
      ("test_" ++ Name.moduleName scenario.name)
      ((objectWritten? scenario options).map PageObject.objectNames) := by
  have hwritten : (ofScenario scenario options outcomes).pageObject? =
      objectWritten? scenario options := rfl
  have houter := outerCode_testSource scenario options outcomes
  rcases Compiled.test_pageObject?_cases scenario options outcomes with
    ⟨hnone, -⟩ | ⟨object, hsome, -, hmethods, hsteps, -⟩
  · rw [← hwritten, hnone] at houter ⊢
    constructor
    · exact houter
    · refine ⟨stepLines options.style scenario.steps, Compiled.functionCode_of_none hnone, ?_⟩
      exact fun line hline => .inl (isPageCall_of_mem_stepLines hline)
    · exact nofun
  · have hcode := Compiled.functionCode_of_some hsome hsteps
    rw [← hwritten, hsome] at houter ⊢
    constructor
    · exact houter
    · refine ⟨_, hcode, ?_⟩
      rw [List.forall_mem_map]
      intro step _
      cases hfind : Method.find? object.methods (.ofStep step) with
      | none => exact .inl (isPageCall_of_find?_eq_none hfind options.style object.moduleName)
      | some method =>
          refine .inr ⟨object.objectNames, rfl, method.name, ?_, ?_⟩
          · exact List.mem_map_of_mem (List.mem_of_find?_eq_some hfind)
          · exact callsMethod_of_find?_eq_some hfind options.style
    · rintro _ ⟨⟩ name hname
      obtain ⟨method, hmethod, rfl⟩ := List.mem_map.mp hname
      rw [hmethods] at hmethod
      obtain ⟨step, hstep, hfind⟩ := Method.exists_step_of_mem hmethod
      rw [← hmethods] at hfind
      rw [hcode]
      exact ⟨_, List.mem_cons_of_mem _ (List.mem_map_of_mem hstep),
        callsMethod_of_find?_eq_some hfind options.style⟩

/-- Every name that is made for a suite can be given where the suite has it.  There is one for the
function of the test and, with a page object, one for its module, which the object is called like as
well, one for its class and one for each method; they are not words of code and not in use already,
and differ from each other.  The test imports, makes and calls what the file of the page object
defines, by these names, and calls nothing else but its page. -/
theorem compile_names_free (hartifact : compile scenario options outcomes = .ok artifact) :
    ∃ function object?, UsesNames artifact.testSource function object? ∧
      List.Forall₂ DefinesNames artifact.pageObjects object?.toList ∧
      IsFreeName function ∧ ∀ object ∈ object?, object.AreFree function := by
  obtain ⟨-, rfl⟩ := compile_eq_ok_iff.mp hartifact
  have hfiles : (ofScenario scenario options outcomes).artifact.pageObjects =
      ((objectWritten? scenario options).map (SourceFile.ofPageObject options.style)).toList := rfl
  have hobject : ∀ object, objectWritten? scenario options = some object →
      PageObject.ofScenario? scenario = some object :=
    fun object => @Compiled.ofScenario?_of_pageObject? scenario options outcomes object
  refine ⟨_, _, usesNames_testSource scenario options outcomes, ?_,
    isFreeName_function scenario.name, ?_⟩
  · rw [hfiles]
    cases hwritten : objectWritten? scenario options with
    | none => exact .nil
    | some object =>
        exact .cons (definesNames_ofPageObject (hobject object hwritten) options.style) .nil
  · intro names hnames
    obtain ⟨object, hwritten, rfl⟩ := Option.map_eq_some_iff.mp hnames
    exact PageObject.areFree_objectNames (hobject object hwritten)

/-- A scenario that is called like the page, with targets called like what stands for an object, or
made of marks alone. -/
def namesakeScenario : Scenario where
  id := "s-1"
  name := "page"
  description? := none
  steps :=
    [⟨.fill, "#self", some "a", ""⟩, ⟨.click, "##", none, ""⟩, ⟨.type, "#self", some "b", ""⟩,
     ⟨.click, "##", none, ""⟩, ⟨.click, ".self", none, ""⟩]
  tags := []

theorem compile_namesakeScenario_names_free :
    let methods : List Text := ["fill_self", "click_element_2"]
    ∃ artifact function object, compile namesakeScenario .standard [] = .ok artifact ∧
      object.moduleName = ("page_page" : Text) ∧ object.methods = methods ∧
      UsesNames artifact.testSource function (some object) ∧
      List.Forall₂ DefinesNames artifact.pageObjects [object] ∧
      IsFreeName function ∧ object.AreFree function := by
  intro methods
  have hok : compile namesakeScenario .standard [] =
      .ok (ofScenario namesakeScenario .standard []).artifact := by rfl
  have hfiles : (ofScenario namesakeScenario .standard []).artifact.pageObjects.map
      (fun file => (file.name, definedNames file.source)) =
        [(("page_page" : Text), ("__init__" : Text) :: methods)] := by
    decide +kernel
  obtain ⟨function, object?, huses, hdefines, hfunction, hfree⟩ := compile_names_free hok
  cases object? with
  | none =>
      rw [List.forall₂_nil_right_iff.mp hdefines] at hfiles
      exact absurd hfiles nofun
  | some object =>
      obtain ⟨file, files, hfile, hnil, hobjects⟩ := List.forall₂_cons_right_iff.mp hdefines
      obtain rfl := List.forall₂_nil_right_iff.mp hnil
      rw [hobjects, List.map_singleton, List.singleton_inj, hfile.methods, hfile.name] at hfiles
      obtain ⟨hmodule, hmethods⟩ := Prod.mk.inj hfiles
      exact ⟨_, function, object, hok, hmodule, List.tail_eq_of_cons_eq hmethods, huses, hdefines,
        hfunction, hfree object rfl⟩

end Suite

end PageScript
