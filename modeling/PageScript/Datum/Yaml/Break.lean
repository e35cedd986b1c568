import PageScript.Text

namespace PageScript.Datum.Yaml

/-- The characters that end a line. -/
def isBreak (c : CodePoint) : Bool :=
  c == '\n' || c.toNat == 0x85 || c.toNat == 0x2028 || c.toNat == 0x2029

/-- The break that is kept for one that is read. -/
def breakOf (c : CodePoint) : CodePoint := if c.toNat == 0x85 then '\n' else c

def isSpace (c : CodePoint) : Bool := c == ' '

def isSpacing (c : CodePoint) : Bool := c == ' ' || c == '\t'

/-- Whether nothing or a gap follows. -/
def atGap (s : Text) : Bool := s.head?.all fun c => isSpacing c || isBreak c

def atSpace (s : Text) : Bool := s.head?.all fun c => isSpace c || isBreak c

def atLineEnd (s : Text) : Bool := s.head?.all isBreak

def atMark (mark s : Text) : Bool := mark.isPrefixOf s && atGap (s.drop 3)

def documentMark : Text := "---"

def endMark : Text := "..."

/-- Whether a line begins with the mark of a new document or of the end of one. -/
def atSeparator (s : Text) : Bool := atMark documentMark s || atMark endMark s

/-- What follows a line break up to the first text: the breaks of empty lines, and
how many characters these and the blanks in front of the text are. -/
structure Fold where
  breaks : Text
  length : Nat
  /-- Whether the text is the mark between two documents. -/
  separated : Bool
  deriving DecidableEq, Repr

/-- What a text begins with up to the first character that is neither a break nor
`skipped`; `newLine` tells whether the text begins a line. -/
def foldLines (skipped : CodePoint → Bool) (newLine : Bool) : Text → Fold
  | [] => ⟨[], 0, false⟩
  | c :: s =>
      if newLine && atSeparator (c :: s) then ⟨[], 0, true⟩
      else if skipped c then
        let fold := foldLines skipped false s
        { fold with length := fold.length + 1 }
      else if isBreak c then
        let fold := foldLines skipped true s
        { fold with breaks := breakOf c :: fold.breaks, length := fold.length + 1 }
      else ⟨[], 0, false⟩

/-- What a line break and the empty lines after it mean inside a text: one break
is a space, and of several the first is left out. -/
def folded (first : CodePoint) (breaks : Text) : Text :=
  if breakOf first != '\n' then breakOf first :: breaks
  else if breaks.isEmpty then " "
  else breaks

end PageScript.Datum.Yaml
