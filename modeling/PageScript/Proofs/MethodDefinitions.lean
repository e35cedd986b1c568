import PageScript.Proofs.MethodExpansion
import PageScript.Proofs.TidyLines

namespace PageScript.Suite

namespace Method

/-- A method as it can be read in the file of its page object. -/
def source (style : Style) (method : Method) : MethodSource where
  parameters :=
    if method.isMixed then MethodSource.mixedParameters
    else "self" ++ (if method.action.needsData then ", value: str" else "" : Text) ++ "):"
  body := ((method.lines style).drop 2).map Line.text

theorem map_text_lines (style : Style) (method : Method) :
    (method.lines style).map Line.text =
      [] :: (definitionOf method.name ++ (method.source style).parameters) ::
        (method.source style).body := by
  unfold source lines
  cases hmixed : method.isMixed with
  | true => simp [Line.text, definitionOf, MethodSource.mixedParameters, Text.ofString]
  | false => cases method.action.needsData <;> simp [Line.text, definitionOf, Text.ofString]

theorem isInMethod_of_mem_body {style : Style} {method : Method} {line : Text}
    (hline : line ∈ (method.source style).body) :
    isInMethod line = true ∧ ∀ name, line.dropPrefix? (definitionOf name) = none := by
  have hdeeper : ∀ (depth : Nat) (code : Text),
      isInMethod (Line.indentation (depth + 8) ++ code) = true ∧
        ∀ name, (Line.indentation (depth + 8) ++ code).dropPrefix? (definitionOf name) = none :=
    fun depth code => ⟨rfl, fun name => rfl⟩
  unfold source lines at hline
  cases hmixed : method.isMixed with
  | true =>
      simp only [hmixed, if_true, List.drop_succ_cons, List.drop_zero, List.map_cons, List.map_nil,
        Line.text, List.mem_cons, List.not_mem_nil, or_false] at hline
      rcases hline with rfl | rfl | rfl | rfl | rfl
      · exact hdeeper 0 _
      · exact hdeeper 0 _
      · exact hdeeper 4 _
      · exact hdeeper 0 _
      · exact hdeeper 4 _
  | false =>
      simp only [hmixed, Bool.false_eq_true, if_false, List.drop_succ_cons, List.drop_zero,
        List.map_cons, List.map_nil, Line.text, List.mem_singleton] at hline
      rw [hline]
      exact hdeeper 0 _

end Method

theorem methodsNamed_append_of_none {name : Text} {lines : List Text}
    (hlines : ∀ line ∈ lines, line.dropPrefix? (definitionOf name) = none) (rest : List Text) :
    methodsNamed name (lines ++ rest) = methodsNamed name rest := by
  induction lines with
  | nil => rfl
  | cons line lines ih =>
      rw [List.forall_mem_cons] at hlines
      rw [List.cons_append, methodsNamed, hlines.1]
      exact ih hlines.2

theorem methodsNamed_method {name : Text} (hname : Name.IsSafeText name) {method : Method}
    (hmethod : Name.IsSafeText method.name) (style : Style) {rest : List Text}
    (hrest : rest.takeWhile isInMethod = []) :
    methodsNamed name ((method.lines style).map Line.text ++ rest) =
      (if method.name = name then [method.source style] else []) ++ methodsNamed name rest := by
  have hbody : ((method.source style).body ++ rest).takeWhile isInMethod =
      (method.source style).body := by
    rw [List.takeWhile_append_of_pos fun line hline => (Method.isInMethod_of_mem_body hline).1,
      hrest, List.append_nil]
  have hafter : methodsNamed name ((method.source style).body ++ rest) = methodsNamed name rest :=
    methodsNamed_append_of_none (fun line hline => (Method.isInMethod_of_mem_body hline).2 name) rest
  have hempty : ([] : Text).dropPrefix? (definitionOf name) = none := rfl
  rw [Method.map_text_lines, List.cons_append, List.cons_append, methodsNamed, hempty, methodsNamed,
    dropPrefix?_definitionOf hname hmethod]
  by_cases heq : method.name = name
  · simp only [heq, if_true, hbody, hafter]
    rfl
  · simp only [heq, if_false, hafter]
    rfl

theorem takeWhile_isInMethod_methods (style : Style) (methods : List Method) :
    ((methods.flatMap (Method.lines style)).map Line.text ++ [[]]).takeWhile isInMethod = [] := by
  cases methods with
  | nil => rfl
  | cons method methods =>
      rw [List.flatMap_cons, List.map_append, Method.map_text_lines]
      rfl

theorem methodsNamed_methods {name : Text} (hname : Name.IsSafeText name) {methods : List Method}
    (hmethods : ∀ method ∈ methods, Name.IsSafeText method.name) (style : Style) :
    methodsNamed name ((methods.flatMap (Method.lines style)).map Line.text ++ [[]]) =
      (methods.filter fun method => method.name = name).map (Method.source style) := by
  induction methods with
  | nil => rfl
  | cons method methods ih =>
      rw [List.forall_mem_cons] at hmethods
      rw [List.flatMap_cons, List.map_append, List.append_assoc,
        methodsNamed_method hname hmethods.1 style (takeWhile_isInMethod_methods style methods),
        ih hmethods.2, List.filter_cons]
      by_cases heq : method.name = name <;> simp [heq]

theorem isSafeText_init : Name.IsSafeText "__init__" := by decide

theorem Method.IsMethodName.ne_init {name : Text} (hname : Method.IsMethodName name) :
    name ≠ "__init__" := by
  rintro rfl
  obtain ⟨action, haction⟩ := hname.action
  exact absurd haction (by cases action <;> decide)

theorem Method.filter_name_eq {methods : List Method} (hnodup : (methods.map Method.name).Nodup)
    {method : Method} (hmethod : method ∈ methods) :
    methods.filter (fun other => other.name = method.name) = [method] := by
  induction methods with
  | nil => exact absurd hmethod List.not_mem_nil
  | cons first methods ih =>
      rw [List.map_cons, List.nodup_cons] at hnodup
      rcases List.mem_cons.mp hmethod with rfl | hlater
      · have hnone : methods.filter (fun other => other.name = method.name) = [] := by
          apply List.filter_eq_nil_iff.mpr
          intro other hother heq
          exact hnodup.1 (List.mem_map.mpr ⟨other, hother, of_decide_eq_true heq⟩)
        rw [List.filter_cons_of_pos (by simp), hnone]
      · have hne : first.name ≠ method.name := fun heq =>
          hnodup.1 (heq ▸ List.mem_map_of_mem hlater)
        rw [List.filter_cons_of_neg (by simpa using hne), ih hnodup.2 hlater]

/-- What is taken as given of the names of a page object. -/
structure PageObject.HasSafeNames (object : PageObject) : Prop where
  module : Name.IsSafeText object.moduleName
  class_ : Name.IsSafeText object.className

namespace PageObject

/-- The lines of a page object in front of its methods. -/
def head (object : PageObject) : List Text :=
  [(Line.header).text, (Line.note 0 "Page object for scenario: " object.scenarioName).text,
   (Line.imports).text, [], [], "class " ++ object.className ++ ":",
   definitionOf "__init__" ++ initializer.parameters, Line.indentation 8 ++ "self.page = page"]

/-- A page object whose names can stand in code and differ from that of the page,
those of its methods being all different. -/
structure IsWritable (object : PageObject) : Prop extends object.HasSafeNames where
  ne_page : object.moduleName ≠ "page"
  methodName : ∀ method ∈ object.methods, Method.IsMethodName method.name
  nodup : (object.methods.map Method.name).Nodup

/-- The names in the file of a page object. -/
def names (object : PageObject) : List Text := object.className :: object.methods.map Method.name

theorem linesOf_source {object : PageObject} (hobject : object.IsWritable) (style : Style) :
    linesOf (SourceFile.ofPageObject style object).source =
      object.head ++ ((object.methods.flatMap (Method.lines style)).map Line.text ++ [[]]) := by
  have hsafe : ∀ name ∈ object.names, Name.IsSafeText name := by
    rw [names, List.forall_mem_cons, List.forall_mem_map]
    exact ⟨hobject.class_, fun method hmethod => (hobject.methodName method hmethod).safe⟩
  have hmethods : ∀ method ∈ object.methods, method.name ∈ object.names := fun method hmethod =>
    List.mem_cons_of_mem _ (List.mem_map_of_mem hmethod)
  have hlines : ∀ line ∈ object.lines style, IsOneLine line.text := fun line hline =>
    isOneLine_of_isSpaced
      ((isTidy_lines List.mem_cons_self hmethods style line hline).isSpaced_text hsafe)
  rw [SourceFile.ofPageObject, linesOf_file hlines, lines, List.map_append, List.append_assoc]
  rfl

theorem findSome?_classBegun? {object : PageObject} (rest : List Text) :
    (object.head ++ rest).findSome? classBegun? = some object.className := by
  have hclass : classBegun? ("class " ++ object.className ++ ":") = some object.className := by
    rw [classBegun?, List.append_assoc, dropPrefix?_append]
    simp [Text.ofString]
  have hbefore : (object.head ++ rest).findSome? classBegun? =
      (("class " ++ object.className ++ ":") :: (object.head.drop 6 ++ rest)).findSome?
        classBegun? := rfl
  rw [hbefore, List.findSome?_cons, hclass]

/-- The file of a page object defines each of its methods once. -/
theorem methodsNamed_source {object : PageObject} (hobject : object.IsWritable) (style : Style)
    {method : Method} (hmethod : method ∈ object.methods) :
    methodsNamed method.name (linesOf (SourceFile.ofPageObject style object).source) =
      [method.source style] := by
  have hname := hobject.methodName method hmethod
  have hinit : (definitionOf "__init__" ++ initializer.parameters).dropPrefix?
      (definitionOf method.name) = none := by
    rw [dropPrefix?_definitionOf hname.safe isSafeText_init, if_neg hname.ne_init.symm]
  have hhead : ∀ line ∈ object.head, line.dropPrefix? (definitionOf method.name) = none := by
    simp only [head, List.forall_mem_cons, hinit, true_and]
    exact ⟨rfl, rfl, rfl, rfl, rfl, rfl, rfl, fun line hline => absurd hline List.not_mem_nil⟩
  have hsafe : ∀ other ∈ object.methods, Name.IsSafeText other.name := fun other hother =>
    (hobject.methodName other hother).safe
  rw [linesOf_source hobject, methodsNamed_append_of_none hhead,
    methodsNamed_methods hname.safe hsafe, Method.filter_name_eq hobject.nodup hmethod]
  rfl

/-- The file of a page object says how an object is made, and says it once. -/
theorem methodsNamed_init {object : PageObject} (hobject : object.IsWritable) (style : Style) :
    methodsNamed "__init__" (linesOf (SourceFile.ofPageObject style object).source) =
      [initializer] := by
  have hsafe : ∀ other ∈ object.methods, Name.IsSafeText other.name := fun other hother =>
    (hobject.methodName other hother).safe
  have hnone : object.methods.filter (fun other => other.name = Text.ofString "__init__") = [] := by
    apply List.filter_eq_nil_iff.mpr
    intro method hmethod
    simpa using (hobject.methodName method hmethod).ne_init
  have hmethods := methodsNamed_methods isSafeText_init hsafe style
  rw [hnone] at hmethods
  have hbody := takeWhile_isInMethod_methods style object.methods
  have hfirst : ∀ line ∈ object.head.take 6,
      line.dropPrefix? (definitionOf "__init__") = none := by
    simp only [head, List.take_succ_cons, List.take_zero, List.forall_mem_cons]
    exact ⟨rfl, rfl, rfl, rfl, rfl, rfl, fun line hline => absurd hline List.not_mem_nil⟩
  rw [linesOf_source hobject]
  generalize (object.methods.flatMap (Method.lines style)).map Line.text ++ [[]] = rest
    at hmethods hbody
  have hinit : methodsNamed "__init__" (object.head.drop 6 ++ rest) =
      ⟨initializer.parameters,
        ((Line.indentation 8 ++ "self.page = page") :: rest).takeWhile isInMethod⟩ ::
        methodsNamed "__init__" rest := rfl
  rw [← List.take_append_drop 6 object.head, List.append_assoc, methodsNamed_append_of_none hfirst,
    hinit, hmethods, List.takeWhile_cons_of_pos rfl, hbody]
  rfl

theorem isWritable_of_ofScenario? {scenario : Scenario} {object : PageObject}
    (hobject : ofScenario? scenario = some object) :
    object.IsWritable ∧ object.methods = Method.ofSteps scenario.steps := by
  obtain rfl := eq_of_ofScenario? hobject
  have hbase := Name.isSafeText_uniqueModuleName scenario.name
  have hclass := Name.isSafeText_className (Name.uniqueModuleName scenario.name)
  refine ⟨⟨⟨hbase.append (by decide), hclass.append (by decide)⟩, fun hpage => ?_,
    fun method hmethod => (Method.isFor_of_mem hmethod).name,
    Method.nodup_names scenario.steps⟩, rfl⟩
  have hlength := congrArg List.length hpage
  simp [Text.ofString] at hlength

end PageObject

end PageScript.Suite
