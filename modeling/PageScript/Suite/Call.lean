import PageScript.Scenario
import PageScript.Suite.Locator

namespace PageScript.Suite

/-- One line: nothing, a remark, or code, indented by a number of blanks. -/
inductive Line where
  | empty
  | remark (indent : Nat) (text : Text)
  | code (indent : Nat) (text : Text)
  deriving DecidableEq, Repr

namespace Line

def indentation (n : Nat) : Text := List.replicate n ' '

/-- The line as it stands in the file, without its end. -/
def text : Line → Text
  | .empty => ""
  | .remark indent text => indentation indent ++ "# " ++ text
  | .code indent text => indentation indent ++ text

/-- A remark that begins with a fixed word and goes on with a text, which is
brought onto one line. -/
def note (indent : Nat) (word text : Text) : Line := .remark indent (word ++ Text.collapse text)

def file (lines : List Line) : Text := List.flatten (lines.map fun line => line.text ++ "\n")

def header : Line := .remark 0 "Generated by scenarioforge. Do not edit by hand."

def imports : Line := .code 0 "from playwright.sync_api import Page, expect"

end Line

/-- A text handed to a call: a literal, or the parameter of the method that the
call stands in. -/
inductive Argument where
  | literal (text : Text)
  | parameter
  deriving DecidableEq, Repr

def Argument.code : Argument → Text
  | .literal text => Text.codeLiteral text
  | .parameter => "value"

inductive Call where
  | goto (url : Text)
  | pause (milliseconds : Nat)
  | fill (element : Locator) (text : Argument)
  | type (element : Locator) (text : Argument)
  | select (element : Locator) (option : Argument)
  | click (element : Locator)
  | hover (element : Locator)
  | expectVisible (element : Locator)
  | waitFor (element : Locator)
  deriving DecidableEq, Repr

namespace Call

def onElement (action : Action) (element : Locator) (argument : Argument) : Call :=
  match action with
  | .fill => .fill element argument
  | .type => .type element argument
  | .select => .select element argument
  | .click => .click element
  | .hover => .hover element
  | .expect => .expectVisible element
  | .goto | .wait => .waitFor element

/-- The call of a step, with its data as `argument`. -/
def ofStep (style : Style) (step : Step) (argument : Argument) : Call :=
  match step.action with
  | .goto => .goto step.target
  | .wait =>
      match step.targetDigits? with
      | some digits => .pause (Text.numberOf digits)
      | none => onElement .wait (.ofTarget style step.target) argument
  | action => onElement action (.ofTarget style step.target) argument

/-- The code of a call on the page that `base` names. -/
def code (base : Text) : Call → Text
  | .goto url => base ++ ".goto(" ++ Text.codeLiteral url ++ ")"
  | .pause milliseconds => base ++ ".wait_for_timeout(" ++ toString milliseconds ++ ")"
  | .fill element text => element.code base ++ ".fill(" ++ text.code ++ ")"
  | .type element text => element.code base ++ ".press_sequentially(" ++ text.code ++ ")"
  | .select element option => element.code base ++ ".select_option(" ++ option.code ++ ")"
  | .click element => element.code base ++ ".click()"
  | .hover element => element.code base ++ ".hover()"
  | .expectVisible element => "expect(" ++ element.code base ++ ").to_be_visible()"
  | .waitFor element => element.code base ++ ".wait_for()"

end Call

end PageScript.Suite
