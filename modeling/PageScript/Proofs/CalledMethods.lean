import PageScript.Proofs.FactoredSuite
import PageScript.Proofs.SharedSteps

namespace PageScript.Suite

/-- The name of the method whose definition a line begins. -/
def definedName? (line : Text) : Option Text :=
  (line.dropPrefix? (Line.indentation 4 ++ Text.ofString "def ")).map fun rest =>
    rest.takeWhile fun c => c != .char '('

def definedNames (source : Text) : List Text := (linesOf source).filterMap definedName?

/-- The name of the method of `object` that a line of a test calls. -/
def calledName? (object line : Text) : Option Text :=
  (methodCall? object (line.drop 4)).map Prod.fst

/-- A file has one method for each of the steps that are the first of several to use an element in
one way, under the names given in the same order, and it is for all these steps; each name is found
by the search that begins with the name which the first step asks for, among the names before it. -/
structure DefinesShared (style : Style) (steps : List Step) (source : Text) (names : List Text) :
    Prop where
  length_eq : names.length = (sharedSteps steps).length
  nodup : names.Nodup
  defined : definedNames source = ("__init__" : Text) :: names
  method : ∀ first name, (first, name) ∈ (sharedSteps steps).zip names → ∃ method : Method,
    method.use = .ofStep first ∧
      method.actions = ((stepsLike steps first).map Step.action).eraseDups ∧ method.name = name ∧
      methodsNamed name (linesOf source) = [method.source style]
  renamed : ∀ (i : Nat) first name, ((sharedSteps steps).zip names)[i]? = some (first, name) →
    Method.Renaming (names.take i) (Method.wantedName (.ofStep first) first.action i)
      (Method.wantedName (.ofStep first) first.action i) 2 name

/-- The name that is given to the steps that use an element as this one does. -/
def sharedName? (steps : List Step) (names : List Text) (step : Step) : Option Text :=
  if step.IsOnElement then
    (((sharedSteps steps).zip names).find? fun item => item.1.SameUse step).map Prod.snd
  else none

/-- Behind a line that calls nothing, there is a line for each step, which calls the method for
its use of an element if there is one. -/
structure CallsShared (steps : List Step) (object : Text) (names code : List Text) : Prop where
  called : code.map (calledName? object) = none :: steps.map (sharedName? steps names)
  count : ∀ first name, (first, name) ∈ (sharedSteps steps).zip names →
    (code.filterMap (calledName? object)).count name = (stepsLike steps first).length

theorem definedName?_definitionOf {name : Text} (hname : Name.IsSafeText name) (parameters : Text) :
    definedName? (definitionOf name ++ parameters) = some name := by
  have hbracket : ∀ c ∈ name, (c != .char '(') = true := by
    intro c hc
    rw [bne_iff_ne]
    rintro rfl
    exact not_mem_of_isSafeText hname (by decide) hc
  have hline : definitionOf name ++ parameters =
      (Line.indentation 4 ++ Text.ofString "def ") ++ (name ++ .char '(' :: parameters) := by
    simp [definitionOf, Text.ofString]
  rw [definedName?, hline, dropPrefix?_append, Option.map_some,
    List.takeWhile_append_of_pos hbracket]
  simp

theorem definedName?_of_isInMethod {line : Text} (hline : isInMethod line = true) :
    definedName? line = none := by
  obtain ⟨rest, rfl⟩ := List.isPrefixOf_iff_prefix.mp hline
  rfl

theorem Method.filterMap_definedName?_lines {method : Method} (hname : Name.IsSafeText method.name)
    (style : Style) :
    ((method.lines style).map Line.text).filterMap definedName? = [method.name] := by
  have hbody : (method.source style).body.filterMap definedName? = [] :=
    List.filterMap_eq_nil_iff.mpr fun line hline =>
      definedName?_of_isInMethod (isInMethod_of_mem_body hline).1
  rw [map_text_lines, List.filterMap_cons_none rfl,
    List.filterMap_cons_some (definedName?_definitionOf hname _), hbody]

theorem PageObject.definedNames_source {object : PageObject} (hobject : object.IsWritable)
    (style : Style) :
    definedNames (SourceFile.ofPageObject style object).source =
      ("__init__" : Text) :: object.methods.map Method.name := by
  have hhead : object.head.filterMap definedName? = [("__init__" : Text)] := rfl
  have hlast : ([[]] : List Text).filterMap definedName? = [] := rfl
  have hmethods : ((object.methods.flatMap (Method.lines style)).map Line.text).filterMap
      definedName? = object.methods.map Method.name := by
    rw [List.map_flatMap, List.filterMap_flatMap, List.map_eq_flatMap]
    exact List.flatMap_congr fun method hmethod =>
      Method.filterMap_definedName?_lines (hobject.methodName method hmethod).safe style
  rw [definedNames, linesOf_source hobject, List.filterMap_append, List.filterMap_append, hhead,
    hmethods, hlast, List.append_nil]
  rfl

/-- The methods of a scenario, beside the first of the steps that each of them is for. -/
theorem Method.map_zip_sharedSteps (steps : List Step) :
    ((sharedSteps steps).zip ((ofSteps steps).map Method.name)).map (Prod.map Use.ofStep id) =
      (ofSteps steps).map fun method => (method.use, method.name) := by
  rw [← List.zip_map_left, map_ofStep_sharedSteps, ← map_use_ofSteps, List.zip_map']

theorem definesShared_source {object : PageObject} (hobject : object.IsWritable) {steps : List Step}
    (hmethods : object.methods = Method.ofSteps steps) (style : Style) :
    DefinesShared style steps (SourceFile.ofPageObject style object).source
      (object.methods.map Method.name) := by
  have hzip := Method.map_zip_sharedSteps steps
  rw [← hmethods] at hzip
  constructor
  · rw [← List.length_map Use.ofStep, map_ofStep_sharedSteps, hmethods, ← Method.map_use_ofSteps,
      List.length_map, List.length_map]
  · exact hobject.nodup
  · exact PageObject.definedNames_source hobject style
  · intro first name hmem
    have hlisted := List.mem_map_of_mem hmem (f := Prod.map Use.ofStep id)
    rw [hzip] at hlisted
    obtain ⟨method, hmethod, heq⟩ := List.mem_map.mp hlisted
    obtain ⟨huse, rfl⟩ := Prod.mk.inj heq
    refine ⟨method, huse, ?_, rfl, PageObject.methodsNamed_source hobject style hmethod⟩
    rw [map_action_stepsLike, ← huse]
    exact (Method.actions_eq_of_mem (hmethods ▸ hmethod)).1
  · intro i first name hi
    have hlisted := congrArg (Option.map (Prod.map Use.ofStep id)) hi
    rw [← List.getElem?_map, hzip, List.getElem?_map] at hlisted
    obtain ⟨method, hmethod, heq⟩ := Option.map_eq_some_iff.mp hlisted
    obtain ⟨huse, rfl⟩ := Prod.mk.inj heq
    rw [hmethods] at hmethod ⊢
    obtain ⟨action, haction, hrenaming⟩ := Method.renaming_name hmethod
    have hfirst : first ∈ sharedSteps steps := (List.of_mem_zip (List.mem_of_getElem? hi)).1
    rw [huse] at haction hrenaming
    rw [head?_actionsOf_of_mem_sharedSteps hfirst, Option.some.injEq] at haction
    rwa [← haction] at hrenaming

theorem sharedName?_eq (steps : List Step) (step : Step) :
    sharedName? steps ((Method.ofSteps steps).map Method.name) step =
      if step.seeksElement then (Method.find? (Method.ofSteps steps) (.ofStep step)).map Method.name
      else none := by
  rw [sharedName?, ← lookup_zip_sharedUses, ← Method.map_use_ofSteps, Method.lookup_zip_names]
  exact if_congr Step.isOnElement_iff rfl rfl

theorem calledName?_statement {object : PageObject} {steps : List Step}
    (hobject : object.IsWritable)
    (hmethods : object.methods = Method.ofSteps steps) (style : Style) {step : Step}
    (hstep : step ∈ steps) :
    calledName? object.moduleName (Line.indentation 4 ++
        (Statement.ofStep style object.methods step).code object.moduleName) =
      sharedName? steps (object.methods.map Method.name) step := by
  rw [calledName?, drop_indentation, hmethods, sharedName?_eq, ← hmethods]
  cases hfind : Method.find? object.methods (.ofStep step) with
  | none =>
      have hnone := methodCall?_call hobject.module hobject.ne_page
        (.ofStep style step (.literal (step.data?.getD "")))
      simp only [Statement.ofStep, hfind, Statement.code, hnone, Option.map_none, ite_self]
  | some method =>
      have hmem : method ∈ object.methods := List.mem_of_find?_eq_some hfind
      have hseeks : step.seeksElement = true := by
        rw [hmethods] at hfind
        exact (Method.find?_ofSteps hstep hfind).2.2.1
      simp only [Statement.ofStep, hfind, methodCall?_method hobject hmem, hseeks, if_true,
        Option.map_some]

theorem methodCall?_of_not_prefix {object code : Text}
    (hcode : ¬ object ++ [CodePoint.char '.'] <+: code) :
    methodCall? object code = none := by
  have hdrop : code.dropPrefix? (object ++ [.char '.']) = none := by
    rw [Option.eq_none_iff_forall_not_mem]
    intro rest hrest
    obtain ⟨start, rfl, hstart⟩ := List.dropPrefix?_eq_some_iff.mp hrest
    exact hcode (eq_of_beq hstart ▸ List.prefix_append start rest)
  rw [methodCall?, hdrop]
  rfl

theorem calledName?_binding (object className : Text) :
    calledName? object (Line.indentation 4 ++ (object ++ " = " ++ className ++ "(page)")) =
      none := by
  have hprefix : ¬ object ++ [CodePoint.char '.'] <+:
      (object ++ " = " ++ className ++ "(page)" : Text) := by
    rw [List.append_assoc, List.append_assoc, List.prefix_append_right_inj]
    rintro ⟨rest, hrest⟩
    exact absurd hrest nofun
  rw [calledName?, drop_indentation, methodCall?_of_not_prefix hprefix]
  rfl

/-- The steps that call a method are those of its use. -/
theorem CallsShared.of_called {steps : List Step} {object : Text} {code : List Text}
    (hcalled : code.map (calledName? object) =
      none :: steps.map (sharedName? steps ((Method.ofSteps steps).map Method.name))) :
    CallsShared steps object ((Method.ofSteps steps).map Method.name) code := by
  refine ⟨hcalled, fun first name hmem => ?_⟩
  have hlisted := List.mem_map_of_mem hmem (f := Prod.map Use.ofStep id)
  rw [Method.map_zip_sharedSteps] at hlisted
  obtain ⟨method, hmethod, heq⟩ := List.mem_map.mp hlisted
  obtain ⟨huse, rfl⟩ : method.use = .ofStep first ∧ method.name = name := Prod.mk.inj heq
  have hnames : code.filterMap (calledName? object) =
      (code.map (calledName? object)).filterMap id := by
    rw [List.filterMap_map]
    rfl
  rw [hnames, hcalled, List.filterMap_cons_none rfl, List.filterMap_map, List.count_filterMap,
    length_stepsLike, count_usesOf_eq_countP, ← huse]
  refine List.countP_congr fun step _ => ?_
  rw [Function.comp_apply, id, sharedName?_eq]
  cases hseeks : step.seeksElement with
  | false => simp
  | true =>
      rw [if_pos rfl, Bool.true_and, beq_iff_eq, beq_iff_eq, Option.map_eq_some_iff]
      constructor
      · rintro ⟨found, hfound, hname⟩
        obtain rfl := List.inj_on_of_nodup_map (Method.nodup_names steps)
          (List.mem_of_find?_eq_some hfound) hmethod hname
        have huse : found.use = .ofStep step := by simpa using List.find?_some hfound
        exact huse.symm
      · rintro hsame
        rw [hsame]
        exact ⟨method, Method.find?_eq_of_mem (Method.nodup_uses steps) hmethod, rfl⟩

theorem PageObject.ofScenario?_eq_none_iff {scenario : Scenario} :
    ofScenario? scenario = none ↔ sharedSteps scenario.steps = [] := by
  rw [← List.map_eq_nil_iff, map_ofStep_sharedSteps, ← Method.map_use_ofSteps, List.map_eq_nil_iff,
    ofScenario?]
  cases Method.ofSteps scenario.steps <;> simp

theorem calledName?_eq_none_of_mem_stepLines {style : Style} {steps : List Step}
    {object line : Text} (hobject : Name.IsSafeText object) (hpage : object ≠ "page")
    (hline : line ∈ stepLines style steps) :
    calledName? object line = none := by
  rw [stepLines] at hline
  split at hline
  · obtain rfl := List.mem_singleton.mp hline
    have hprefix : ¬ object ++ [CodePoint.char '.'] <+: "pass" := by
      intro hcode
      exact absurd (hcode.subset (List.mem_append_right object List.mem_cons_self)) (by decide)
    rw [calledName?, drop_indentation, methodCall?_of_not_prefix hprefix]
    rfl
  · obtain ⟨step, -, rfl⟩ := List.mem_map.mp hline
    rw [calledName?, stepLine, drop_indentation, methodCall?_call hobject hpage]
    rfl

/-- With page objects, a suite has one for the uses of more than one step, if there are any: it
has a method for each of them, in the order in which they first appear and under different names,
and the test calls the method of a use once for each of its steps, in their order, and none for
other steps.  In all other cases there is no page object, and nothing calls a method.  The search
for a name always ends. -/
theorem compile_calls_shared {scenario : Scenario} {options : Options} {outcomes : List Outcome}
    {artifact : Artifact} (hartifact : compile scenario options outcomes = .ok artifact) :
    (options.pageObjects = true ∧ sharedSteps scenario.steps ≠ [] → ∃ file names,
      artifact.pageObjects = [file] ∧
      DefinesShared options.style scenario.steps file.source names ∧
      CallsShared scenario.steps file.name names (functionCode artifact.testSource)) ∧
    (options.pageObjects = false ∨ sharedSteps scenario.steps = [] →
      artifact.pageObjects = [] ∧
      functionCode artifact.testSource = stepLines options.style scenario.steps ∧
      ∀ object, Name.IsSafeText object → object ≠ "page" →
        ∀ line ∈ functionCode artifact.testSource, calledName? object line = none) ∧
    ∀ taken wanted, ∃ name, Method.Renaming taken wanted wanted 2 name := by
  obtain ⟨-, rfl⟩ := compile_eq_ok_iff.mp hartifact
  have hwritten : (ofScenario scenario options outcomes).pageObject? =
      if options.pageObjects then PageObject.ofScenario? scenario else none := rfl
  refine ⟨?_, fun hplain => ?_, fun taken wanted => ⟨_, Method.renaming_freshName taken wanted⟩⟩
  · rintro ⟨hobjects, hshared⟩
    rw [if_pos hobjects] at hwritten
    rcases Compiled.test_pageObject?_cases scenario options outcomes with
      ⟨hnone, -⟩ | ⟨object, hsome, hwritable, hmethods, hsteps, -⟩
    · exact absurd (PageObject.ofScenario?_eq_none_iff.mp (hwritten.symm.trans hnone)) hshared
    · refine ⟨SourceFile.ofPageObject options.style object, object.methods.map Method.name, ?_,
        definesShared_source hwritable hmethods options.style, ?_⟩
      · rw [Compiled.pageObjects_artifact, hsome]
        rfl
      · have hcalled : (functionCode
            (ofScenario scenario options outcomes).artifact.testSource).map
              (calledName? object.moduleName) = none :: scenario.steps.map
                (sharedName? scenario.steps (object.methods.map Method.name)) := by
          rw [Compiled.functionCode_of_some hsome hsteps, List.map_cons, calledName?_binding,
            List.map_map]
          refine congrArg (none :: ·) (List.map_congr_left fun step hstep => ?_)
          exact calledName?_statement hwritable hmethods options.style hstep
        rw [hmethods] at hcalled ⊢
        exact CallsShared.of_called hcalled
  · have hnone : (ofScenario scenario options outcomes).pageObject? = none := by
      rw [hwritten]
      rcases hplain with hoff | hshared
      · rw [hoff]
        rfl
      · rw [PageObject.ofScenario?_eq_none_iff.mpr hshared, ite_self]
    have hcode := Compiled.functionCode_of_none hnone
    refine ⟨by rw [Compiled.pageObjects_artifact, hnone]; rfl, hcode, ?_⟩
    rw [hcode]
    exact fun object hobject hpage line hline =>
      calledName?_eq_none_of_mem_stepLines hobject hpage hline

/-- A scenario whose targets are alike but for marks, or are nothing but marks.  It fills a field
and types into it, and goes to the address of an element and waits as often. -/
def clashingScenario : Scenario where
  id := "s-1"
  name := "clash"
  description? := none
  steps :=
    [⟨.click, "#go", none, ""⟩, ⟨.type, "#q", some "a", ""⟩, ⟨.click, ".go", none, ""⟩,
     ⟨.click, "#go-2", none, ""⟩, ⟨.goto, "#go", none, ""⟩, ⟨.wait, " 250", none, ""⟩,
     ⟨.click, "##", none, ""⟩, ⟨.hover, "#go", none, ""⟩, ⟨.fill, "#q", some "b", ""⟩,
     ⟨.click, "##", none, ""⟩, ⟨.click, "#go-2", none, ""⟩, ⟨.goto, "#go", none, ""⟩,
     ⟨.click, ".go", none, ""⟩, ⟨.wait, " 250", none, ""⟩, ⟨.click, "#go", none, ""⟩]
  tags := []

theorem compile_clashingScenario_calls_shared :
    let names : List Text := ["click_go", "type_q", "click_go_2", "click_go_2_2", "click_element_5"]
    let called : List (Option Text) :=
      [none, some "click_go", some "type_q", some "click_go_2", some "click_go_2_2", none, none,
       some "click_element_5", none, some "type_q", some "click_element_5", some "click_go_2_2",
       none, some "click_go_2", none, some "click_go"]
    ∃ artifact file, compile clashingScenario .standard [] = .ok artifact ∧
      artifact.pageObjects = [file] ∧
      DefinesShared .locator clashingScenario.steps file.source names ∧
      CallsShared clashingScenario.steps file.name names (functionCode artifact.testSource) ∧
      (functionCode artifact.testSource).map (calledName? file.name) = called := by
  intro names called
  have hok : compile clashingScenario .standard [] =
      .ok (ofScenario clashingScenario .standard []).artifact := by rfl
  obtain ⟨file, found, hfile, hdefines, hcalls⟩ :=
    (compile_calls_shared hok).1 ⟨rfl, by decide +kernel⟩
  have hdefined : (ofScenario clashingScenario .standard []).artifact.pageObjects.map
      (fun file => definedNames file.source) = [("__init__" : Text) :: names] := by
    decide +kernel
  rw [hfile, List.map_singleton, List.singleton_inj, hdefines.defined] at hdefined
  obtain rfl : found = names := List.tail_eq_of_cons_eq hdefined
  exact ⟨_, file, hok, hfile, hdefines, hcalls, hcalls.called.trans (by decide +kernel)⟩

end PageScript.Suite
