import PageScript.Selector.Attribute
import PageScript.Text.Blank

namespace PageScript.Selector

def roleMark : Text := "role="

def nameMark : Text := "[name="

/-- A role and, if one is asked for, an accessible name as it is written. -/
structure Role where
  role : Text
  name? : Option Text
  deriving DecidableEq, Repr

def behind? (mark s : Text) : Option Text :=
  if mark.isPrefixOf s then some (s.drop mark.length) else none

/-- The text between two equal quotes, the second of which stands before a
closing bracket at the end. -/
def quotedName? : Text → Option Text
  | quote :: s =>
      if (quote == '"' || quote == '\'') && s.getLast? == some ']' &&
          s.dropLast.getLast? == some quote then
        some s.dropLast.dropLast
      else none
  | [] => none

/-- Reads a role selector: the role, and then nothing or a quoted name in
brackets. -/
def role? (selector : Text) : Option Role :=
  match behind? roleMark (Text.trim selector) with
  | none => none
  | some s =>
      let role := s.takeWhile isNameChar
      if role.isEmpty then none
      else
        match s.dropWhile isNameChar with
        | [] => some ⟨role, none⟩
        | rest =>
            ((behind? nameMark rest).bind quotedName?).map fun name => ⟨role, some name⟩

/-- The selector of a role attribute, without the blanks around it. -/
def ofRole (value : Text) : Text := "role=" ++ Text.trim value

def textMark : Text := "text="

/-- The most characters of a visible text that make a selector. -/
def maxTextLength : Nat := 64

/-- A text on one line; no text is the empty one. -/
def oneLine (text? : Option Text) : Text := Text.collapse (text?.getD "")

/-- The selector of a visible text, unless the text is empty or too long. -/
def ofText? (text? : Option Text) : Option Text :=
  let text := oneLine text?
  if text.isEmpty || maxTextLength < text.length then none
  else some ("text=" ++ text)

end PageScript.Selector
