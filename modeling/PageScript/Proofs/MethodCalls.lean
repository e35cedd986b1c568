import PageScript.Proofs.MethodDefinitions

namespace PageScript.Suite

theorem Call.ofStep_of_seeksElement (style : Style) {step : Step}
    (hseeks : step.seeksElement = true) (argument : Argument) :
    Call.ofStep style step argument =
      Call.onElement step.action (.ofTarget style step.target) argument := by
  unfold Step.seeksElement at hseeks
  unfold Call.ofStep
  cases haction : step.action <;> simp_all

theorem isNamePart_of_isSafeText {s : Text} (hs : Name.IsSafeText s) :
    ∀ c ∈ s, Piece.isNamePart c = true := fun c hc => by
  rw [Piece.isNamePart, hs c hc, Bool.true_or]

theorem methodCall?_code {object name : Text} (hobject : Name.IsSafeText object)
    (hname : Name.IsSafeText name) (hne : name ≠ []) (arguments : Text) :
    methodCall? object (object ++ "." ++ name ++ "(" ++ arguments) =
      some (name, Piece.read arguments) := by
  have hdot := dropPrefix?_mark (not_mem_of_isSafeText hobject (c := .char '.') (by decide))
    (not_mem_of_isSafeText hobject (by decide)) (name ++ .char '(' :: arguments)
  have hread := Piece.read_name_append hne (isNamePart_of_isSafeText hname)
    (c := .char '(') (by decide) (by decide) arguments
  have hcode : object ++ "." ++ name ++ "(" ++ arguments =
      object ++ CodePoint.char '.' :: (name ++ .char '(' :: arguments) := by
    simp [Text.ofString]
  rw [methodCall?, hcode, hdot, if_pos rfl, Option.map_some, hread]
  rfl

/-- A line that names the page of the test calls no method of an object. -/
theorem methodCall?_eq_none {object other : Text} (hobject : Name.IsSafeText object)
    (hother : .char '.' ∉ other) (hne : object ≠ other) (rest : Text) :
    methodCall? object (other ++ CodePoint.char '.' :: rest) = none := by
  have hdot := dropPrefix?_mark (not_mem_of_isSafeText hobject (c := .char '.') (by decide))
    hother rest
  rw [methodCall?, hdot, if_neg hne]
  rfl

theorem Locator.exists_code_eq (base : Text) (element : Locator) :
    ∃ rest, element.code base = base ++ CodePoint.char '.' :: rest := by
  rw [Locator.code_eq]
  cases element <;> exact ⟨_, by simp [Locator.opening, Text.ofString]; rfl⟩

theorem Call.exists_code_eq (call : Call) :
    ∃ rest, call.code "page" = Text.ofString "page" ++ CodePoint.char '.' :: rest ∨
      call.code "page" = Text.ofString "expect(page" ++ CodePoint.char '.' :: rest := by
  cases call with
  | goto url => exact ⟨_, Or.inl (by rw [Call.code, List.append_assoc, List.append_assoc]; rfl)⟩
  | pause milliseconds =>
      exact ⟨_, Or.inl (by rw [Call.code, List.append_assoc, List.append_assoc]; rfl)⟩
  | expectVisible element =>
      obtain ⟨rest, hrest⟩ := Locator.exists_code_eq "page" element
      refine ⟨rest ++ ").to_be_visible()", Or.inr ?_⟩
      rw [Call.code, hrest]
      simp [Text.ofString]
  | fill element text | type element text | select element text =>
      obtain ⟨rest, hrest⟩ := Locator.exists_code_eq "page" element
      refine ⟨rest ++ ?_, Or.inl ?_⟩
      rotate_left
      · rw [Call.code, hrest]
        simp only [List.append_assoc, List.cons_append]
        rfl
  | click element | hover element | waitFor element =>
      obtain ⟨rest, hrest⟩ := Locator.exists_code_eq "page" element
      exact ⟨_, Or.inl (by rw [Call.code, hrest, List.append_assoc, List.cons_append])⟩

/-- The arguments of a call, written as they are for a method. -/
def argumentsCode (data? : Option Text) (sequentially : Bool) : Text :=
  (", " : Text).intercalate ((data?.map Text.codeLiteral).toList ++
    (if sequentially then ["sequentially=True"] else [] : List Text)) ++ ")"

theorem readArguments?_code (data? : Option Text) (sequentially : Bool)
    (hdata : sequentially = true → data?.isSome = true) :
    readArguments? (Piece.read (argumentsCode data? sequentially)) =
      some (data?.map Text.codeLiteral, sequentially) := by
  cases data? with
  | none =>
      cases sequentially with
      | false => rfl
      | true => exact absurd (hdata rfl) (by simp)
  | some data =>
      have hread := fun rest => Piece.read_codeLiteral_append data rest
      cases sequentially with
      | false =>
          have hcode : argumentsCode (some data) false = Text.codeLiteral data ++ ")" := by
            simp [argumentsCode, List.intercalate]
          rw [hcode, hread]
          rfl
      | true =>
          have hcode : argumentsCode (some data) true =
              Text.codeLiteral data ++ ", sequentially=True)" := by
            simp [argumentsCode, List.intercalate, Text.ofString]
          rw [hcode, hread]
          rfl

/-- A method that only does one thing, called for a step, does what the step does. -/
theorem MethodSource.expand?_simple (style : Style) {method : Method} {step : Step}
    (hmixed : method.isMixed = false) (hactions : method.actions = [step.action])
    (htarget : method.use.target = step.target) :
    (method.source style).expand? ((Statement.data? step).map Text.codeLiteral) false =
      some ((Call.onElement step.action (.ofTarget style step.target)
        (.literal (step.data?.getD ""))).code "page") := by
  have haction : method.action = step.action := by simp [Method.action, hactions]
  have hbody : (method.source style).body = [Line.indentation 8 ++
      (Call.onElement step.action (.ofTarget style step.target) .parameter).code "self.page"] := by
    simp [Method.source, Method.lines, hmixed, haction, htarget, Line.text]
  have hvalue : (Statement.data? step).map Text.codeLiteral =
      if step.action.needsData then some (Text.codeLiteral (step.data?.getD "")) else none := by
    unfold Statement.data? Step.needsData
    split <;> rfl
  have hparameters : (method.source style).parameters =
      parametersFor ((Statement.data? step).map Text.codeLiteral) := by
    rw [hvalue]
    cases hneeds : step.action.needsData <;> simp [Method.source, hmixed, haction, hneeds] <;> rfl
  simp only [expand?, hbody, Bool.false_eq_true, if_false]
  rw [expandSimple?, if_pos hparameters, dropPrefix?_append, Option.map_some, hvalue,
    Call.substitute_code_onElement]

theorem substitute_entering {call method : Text} (hread : Piece.read call =
      [.name ("locator." ++ method), .mark '(', .name "value", .mark ')']) (element value : Text) :
    substitute [("locator", element), ("value", value)] call =
      element ++ ("." ++ method) ++ "(" ++ value ++ ")" := by
  have hlocator : Bindings.resolve [("locator", element), ("value", value)] ("locator." ++ method) =
      element ++ ("." ++ method) := rfl
  have hvalue : Bindings.resolve [("locator", element), ("value", value)] "value" = value ++ [] := rfl
  rw [substitute, hread]
  simp only [List.flatMap_cons, List.flatMap_nil, Piece.substitute, hlocator, hvalue,
    List.append_nil, List.append_assoc]
  rfl

theorem substitute_filling (element value : Text) :
    substitute [("locator", element), ("value", value)] "locator.fill(value)" =
      element ++ ".fill(" ++ value ++ ")" := by
  have hread : Piece.read "locator.fill(value)" =
      [.name ("locator." ++ Text.ofString "fill"), .mark '(', .name "value", .mark ')'] := by
    decide +kernel
  rw [substitute_entering hread, List.append_assoc element]
  rfl

theorem substitute_typing (element value : Text) :
    substitute [("locator", element), ("value", value)] "locator.press_sequentially(value)" =
      element ++ ".press_sequentially(" ++ value ++ ")" := by
  have hread : Piece.read "locator.press_sequentially(value)" =
      [.name ("locator." ++ Text.ofString "press_sequentially"), .mark '(', .name "value",
        .mark ')'] := by
    decide +kernel
  rw [substitute_entering hread, List.append_assoc element]
  rfl

/-- A method that fills and types, called for a step, does the one of the two that
the step does. -/
theorem MethodSource.expand?_mixed (style : Style) {method : Method} {step : Step}
    (hmixed : method.isMixed = true) (haction : step.action = .fill ∨ step.action = .type)
    (htarget : method.use.target = step.target) :
    (method.source style).expand? ((Statement.data? step).map Text.codeLiteral)
        (step.action == .type) =
      some ((Call.onElement step.action (.ofTarget style step.target)
        (.literal (step.data?.getD ""))).code "page") := by
  have helement := Locator.substitute_code none (.ofTarget style step.target)
  have hdata : (Statement.data? step).map Text.codeLiteral =
      some (Text.codeLiteral (step.data?.getD "")) := by
    rcases haction with haction | haction <;> simp [Statement.data?, Step.needsData, haction,
      Action.needsData]
  have hbody : (method.source style).body =
      [(Line.indentation 8 ++ Text.ofString "locator = ") ++
          (Locator.ofTarget style step.target).code "self.page",
        Line.indentation 8 ++ "if sequentially:",
        Line.indentation 12 ++ "locator.press_sequentially(value)",
        Line.indentation 8 ++ "else:",
        Line.indentation 12 ++ "locator.fill(value)"] := by
    simp [Method.source, Method.lines, hmixed, htarget, Line.text]
  have hparameters : (method.source style).parameters = mixedParameters := by
    simp [Method.source, hmixed]
  simp only [expand?, hbody, hdata, hparameters, and_true, if_true, expandBranch?,
    dropPrefix?_append]
  rcases haction with haction | haction
  · rw [haction]
    change some (substitute _ "locator.fill(value)") = _
    rw [helement, substitute_filling]
    rfl
  · rw [haction]
    change some (substitute _ "locator.press_sequentially(value)") = _
    rw [helement, substitute_typing]
    rfl

/-- The line of a step in a test without a page object. -/
def stepLine (style : Style) (step : Step) : Text :=
  Line.indentation 4 ++ (Call.ofStep style step (.literal (step.data?.getD ""))).code "page"

theorem drop_indentation (code : Text) : (Line.indentation 4 ++ code).drop 4 = code := rfl

theorem methodCall?_call {object : Text} (hobject : Name.IsSafeText object)
    (hpage : object ≠ "page") (call : Call) : methodCall? object (call.code "page") = none := by
  have hexpect : object ≠ "expect(page" := by
    rintro rfl
    exact absurd hobject (by decide)
  obtain ⟨rest, hrest | hrest⟩ := call.exists_code_eq
  · rw [hrest, methodCall?_eq_none hobject (by decide) hpage]
  · rw [hrest, methodCall?_eq_none hobject (by decide) hexpect]

theorem methodCall?_method {object : PageObject} (hobject : object.IsWritable) {method : Method}
    (hmethod : method ∈ object.methods) (data? : Option Text) (sequentially : Bool) :
    methodCall? object.moduleName
        ((Statement.method method.name data? sequentially).code object.moduleName) =
      some (method.name, Piece.read (argumentsCode data? sequentially)) := by
  have hname := hobject.methodName method hmethod
  have hne : method.name ≠ [] := by
    intro hnil
    obtain ⟨action, haction⟩ := hname.action
    rw [hnil, List.prefix_nil] at haction
    exact absurd haction (by cases action <;> decide)
  have hcode : (Statement.method method.name data? sequentially).code object.moduleName =
      object.moduleName ++ "." ++ method.name ++ "(" ++ argumentsCode data? sequentially := by
    simp only [Statement.code, argumentsCode, List.append_assoc]
  rw [hcode]
  exact methodCall?_code hobject.module hname.safe hne _

theorem expandLine?_call {object : PageObject} (hobject : object.IsWritable) (style : Style)
    (call : Call) :
    expandLine? (SourceFile.ofPageObject style object)
        (Line.indentation 4 ++ call.code "page") =
      some (Line.indentation 4 ++ call.code "page") := by
  have hnone := methodCall?_call hobject.module hobject.ne_page call
  simp only [expandLine?, drop_indentation, SourceFile.ofPageObject, hnone]

theorem expandLine?_method {object : PageObject} (hobject : object.IsWritable) (style : Style)
    {method : Method} (hmethod : method ∈ object.methods) (data? : Option Text)
    (sequentially : Bool) (hdata : sequentially = true → data?.isSome = true) :
    expandLine? (SourceFile.ofPageObject style object) (Line.indentation 4 ++
        (Statement.method method.name data? sequentially).code object.moduleName) =
      ((method.source style).expand? (data?.map Text.codeLiteral) sequentially).map
        (Line.indentation 4 ++ ·) := by
  have hcall := methodCall?_method hobject hmethod data? sequentially
  have hsource := PageObject.methodsNamed_source hobject style hmethod
  have hnamed : (SourceFile.ofPageObject style object).name = object.moduleName := rfl
  simp only [expandLine?, drop_indentation, hnamed, hcall, expandCall?, hsource,
    readArguments?_code data? sequentially hdata]

/-- Expanding the line of a step gives the line of the step without page objects. -/
theorem expandLine?_statement {object : PageObject} (hobject : object.IsWritable) {steps : List Step}
    (hmethods : object.methods = Method.ofSteps steps) (style : Style) {step : Step}
    (hstep : step ∈ steps) :
    expandLine? (SourceFile.ofPageObject style object) (Line.indentation 4 ++
        (Statement.ofStep style object.methods step).code object.moduleName) =
      some (stepLine style step) := by
  cases hfind : Method.find? object.methods (.ofStep step) with
  | none =>
      simp only [Statement.ofStep, hfind, Statement.code]
      exact expandLine?_call hobject style _
  | some method =>
      rw [hmethods] at hfind
      obtain ⟨hmem, huse, hseeks, hsimple, hmixed⟩ := Method.find?_ofSteps hstep hfind
      have htarget : method.use.target = step.target := congrArg Use.target huse
      rw [← hmethods] at hfind hmem
      -- A mixed method is told which branch to take by the action of the step.
      have hline := expandLine?_method hobject style hmem (Statement.data? step)
      simp only [Statement.ofStep, hfind]
      rw [stepLine, Call.ofStep_of_seeksElement style hseeks]
      cases hkind : method.isMixed with
      | false =>
          rw [Bool.false_and, hline false (by simp),
            MethodSource.expand?_simple style hkind (hsimple hkind) htarget]
          rfl
      | true =>
          have haction := hmixed hkind
          have hdata : (Statement.data? step).isSome = true := by
            rcases haction with haction | haction <;>
              simp [Statement.data?, Step.needsData, haction, Action.needsData]
          rw [Bool.true_and, hline _ fun _ => hdata,
            MethodSource.expand?_mixed style hkind haction htarget]
          rfl

end PageScript.Suite
