import Mathlib.Data.List.Basic
import PageScript.Proofs.CallCode
import PageScript.Proofs.FileLines

namespace PageScript.Suite

/-- Whether a line is code of a function, and no remark. -/
def isFunctionCode (line : Text) : Bool :=
  match line.dropPrefix? (Line.indentation 4) with
  | some code => code.head? != some (.char '#')
  | none => false

/-- The code of the functions of a file, line by line. -/
def functionCode (source : Text) : List Text := (linesOf source).filter isFunctionCode

/-- A method as it stands in a file: what follows the bracket behind its name,
and the lines under that. -/
structure MethodSource where
  parameters : Text
  body : List Text
  deriving DecidableEq, Repr

def definitionOf (name : Text) : Text := Line.indentation 4 ++ Text.ofString "def " ++ name ++ "("

def isInMethod (line : Text) : Bool := (Line.indentation 8).isPrefixOf line

/-- The methods with a name that are defined in some lines. -/
def methodsNamed (name : Text) : List Text → List MethodSource
  | [] => []
  | line :: rest =>
      match line.dropPrefix? (definitionOf name) with
      | some parameters => ⟨parameters, rest.takeWhile isInMethod⟩ :: methodsNamed name rest
      | none => methodsNamed name rest

/-- The name and the pieces of the arguments, if the code is a call of a method
of `object`. -/
def methodCall? (object code : Text) : Option (Text × List Piece) :=
  match (code.dropPrefix? (object ++ [.char '.'])).map Piece.read with
  | some (.name name :: .mark (.char '(') :: arguments) => some (name, arguments)
  | _ => none

/-- The literal that a call hands over, and whether it asks for typing. -/
def readArguments? : List Piece → Option (Option Text × Bool)
  | [.mark (.char ')')] => some (none, false)
  | [.literal value, .mark (.char ')')] => some (some value, false)
  | [.literal value, .mark (.char ','), .mark (.char ' '), .name flag, .mark (.char '='),
      .name state, .mark (.char ')')] =>
      if flag = "sequentially" ∧ state = "True" then some (some value, true) else none
  | _ => none

namespace MethodSource

/-- What stands behind the bracket of a method that is called with this. -/
def parametersFor : Option Text → Text
  | none => "self):"
  | some _ => "self, value: str):"

/-- What stands behind the bracket of a method that fills and types. -/
def mixedParameters : Text := "self, value: str, sequentially: bool = False):"

/-- The code of a method, called with a literal or none. -/
def expandSimple? (parameters line : Text) (value? : Option Text) : Option Text :=
  if parameters = parametersFor value? then
    (line.dropPrefix? (Line.indentation 8)).map (substitute (calledWith value?))
  else none

/-- The code of a branch, with the element that the method seeks. -/
def expandBranch? (definition branch value : Text) : Option Text := do
  let element ← definition.dropPrefix? (Line.indentation 8 ++ "locator = ")
  let code ← branch.dropPrefix? (Line.indentation 12)
  some (substitute
    [("locator", substitute (calledWith none) element), ("value", value)] code)

/-- The code that a call of a method stands for. -/
def expand? (method : MethodSource) (value? : Option Text) (sequentially : Bool) : Option Text :=
  match method.body, value? with
  | [line], _ => if sequentially then none else expandSimple? method.parameters line value?
  | [definition, condition, typing, otherwise, filling], some value =>
      if method.parameters = mixedParameters ∧
          condition = Line.indentation 8 ++ "if sequentially:" ∧
          otherwise = Line.indentation 8 ++ "else:" then
        expandBranch? definition (if sequentially then typing else filling) value
      else none
  | _, _ => none

end MethodSource

/-- The code of a call in place of the call.  A method that is called has to be
defined exactly once. -/
def expandCall? (lines : List Text) (name : Text) (arguments : List Piece) : Option Text :=
  match readArguments? arguments, methodsNamed name lines with
  | some (value?, sequentially), [method] => method.expand? value? sequentially
  | _, _ => none

/-- A line of a test, with the code of a method in place of its call. -/
def expandLine? (object : SourceFile) (line : Text) : Option Text :=
  match methodCall? object.name (line.drop 4) with
  | some (name, arguments) =>
      (expandCall? (linesOf object.source) name arguments).map (Line.indentation 4 ++ ·)
  | none => some line

def classBegun? (line : Text) : Option Text :=
  (line.dropPrefix? "class ").map List.dropLast

/-- The method that makes an object for a page. -/
def initializer : MethodSource :=
  ⟨"self, page: Page):", [Line.indentation 8 ++ "self.page = page"]⟩

/-- The first line of a test makes an object of the class that the file defines
and the test imports, for the page of the test. -/
def bindsObject (object : SourceFile) (lines : List Text) (first : Text) : Bool :=
  match (linesOf object.source).findSome? classBegun? with
  | some className =>
      lines.contains ("from " ++ object.name ++ " import " ++ className) &&
        first == Line.indentation 4 ++ (object.name ++ " = " ++ className ++ "(page)") &&
        methodsNamed "__init__" (linesOf object.source) == [initializer]
  | none => false

/-- The code of the test of a suite, with the code of the methods of its page
object in place of their calls. -/
def Artifact.expanded? (artifact : Artifact) : Option (List Text) :=
  match artifact.pageObjects, functionCode artifact.testSource with
  | [], code => some code
  | [object], first :: code =>
      if bindsObject object (linesOf artifact.testSource) first then
        code.mapM (expandLine? object)
      else none
  | _, _ => none

theorem dropPrefix?_append (s t : Text) : (s ++ t).dropPrefix? s = some t :=
  List.dropPrefix?_eq_some_iff.mpr ⟨s, rfl, by simp⟩

/-- What stands in front of a mark is told apart by it. -/
theorem dropPrefix?_mark {c : CodePoint} {name other : Text} (hname : c ∉ name)
    (hother : c ∉ other) (rest : Text) :
    (other ++ c :: rest).dropPrefix? (name ++ [c]) = if name = other then some rest else none := by
  induction name generalizing other with
  | nil =>
      cases other with
      | nil => simp [List.dropPrefix?]
      | cons d other =>
          have hne : (d == c) = false := by
            simpa using Ne.symm (List.ne_of_not_mem_cons hother)
          simp [List.dropPrefix?, hne]
  | cons d name ih =>
      have hname' := List.not_mem_of_not_mem_cons hname
      cases other with
      | nil =>
          have hne : (c == d) = false := by simpa using List.ne_of_not_mem_cons hname
          simp [List.dropPrefix?, hne]
      | cons e other =>
          have hrest := ih hname' (List.not_mem_of_not_mem_cons hother)
          by_cases heq : e = d
          · subst heq
            simpa [List.dropPrefix?] using hrest
          · simp [List.dropPrefix?, heq, Ne.symm heq]

theorem not_mem_of_isSafeText {s : Text} (hs : Name.IsSafeText s) {c : CodePoint}
    (hc : Name.isSafe c = false) : c ∉ s := fun hmem => by
  simp [hs c hmem] at hc

/-- A line begins the definition of the name that it gives, and of no other. -/
theorem dropPrefix?_definitionOf {name other : Text} (hname : Name.IsSafeText name)
    (hother : Name.IsSafeText other) (parameters : Text) :
    (definitionOf other ++ parameters).dropPrefix? (definitionOf name) =
      if other = name then some parameters else none := by
  have hdef : ∀ s : Text, Name.IsSafeText s →
      (.char '(') ∉ Line.indentation 4 ++ Text.ofString "def " ++ s := fun s hs hmem => by
    rcases List.mem_append.mp hmem with hmem | hmem
    · exact absurd hmem (by decide)
    · exact not_mem_of_isSafeText hs (by decide) hmem
  have hsplit := dropPrefix?_mark (hdef name hname) (hdef other hother) parameters
  have hline : definitionOf other ++ parameters =
      (Line.indentation 4 ++ Text.ofString "def " ++ other) ++ .char '(' :: parameters := by
    rw [definitionOf, List.append_assoc]
    rfl
  rw [hline]
  refine hsplit.trans ?_
  simp only [List.append_cancel_left_eq, eq_comm]

end PageScript.Suite
