import PageScript.Name
import PageScript.Proofs.CodeLiteral

namespace PageScript.Suite

/-- A part of a line of code: a name with the dots in it, a literal with its
quotes, or any other code point. -/
inductive Piece where
  | name (text : Text)
  | literal (source : Text)
  | mark (c : CodePoint)
  deriving DecidableEq, Repr

namespace Piece

/-- The characters of names.  A name goes on behind a dot. -/
def isNamePart (c : CodePoint) : Bool := Name.isSafe c || c == '.'

/-- The pieces with one more character in front of the name that they begin with. -/
def addToName (c : CodePoint) : List Piece → List Piece
  | .name text :: rest => .name (c :: text) :: rest
  | pieces => .name [c] :: pieces

/-- The pieces with one more character in front of the literal that they begin with. -/
def addToLiteral (c : CodePoint) : List Piece → List Piece
  | .literal source :: rest => .literal (c :: source) :: rest
  | pieces => .literal [c] :: pieces

/-- Where a character of a line stands. -/
inductive Place where
  | outside
  | inLiteral
  /-- Behind a backslash in a literal. -/
  | escaped
  deriving DecidableEq, Repr

/-- The pieces of a text that begins at a place. -/
def readFrom : Place → Text → List Piece
  | _, [] => []
  | .outside, c :: s =>
      if c == '"' then addToLiteral c (readFrom .inLiteral s)
      else if isNamePart c then addToName c (readFrom .outside s)
      else .mark c :: readFrom .outside s
  | .inLiteral, c :: s =>
      if c == '"' then .literal [c] :: readFrom .outside s
      else if c == '\\' then addToLiteral c (readFrom .escaped s)
      else addToLiteral c (readFrom .inLiteral s)
  | .escaped, c :: s => addToLiteral c (readFrom .inLiteral s)

def read (code : Text) : List Piece := readFrom .outside code

/-- What can stand inside a literal as it is. -/
def isPlain (c : CodePoint) : Bool := c != '"' && c != '\\'

theorem readFrom_inLiteral_plain {c : CodePoint} (hc : isPlain c = true) {s source : Text}
    {rest : List Piece} (hs : readFrom .inLiteral s = .literal source :: rest) :
    readFrom .inLiteral (c :: s) = .literal (c :: source) :: rest := by
  simp only [isPlain, Bool.and_eq_true, bne_iff_ne, ne_eq] at hc
  simp [readFrom, hc.1, hc.2, hs, addToLiteral]

theorem readFrom_inLiteral_append {t : Text} (ht : ∀ c ∈ t, isPlain c = true) {s source : Text}
    {rest : List Piece} (hs : readFrom .inLiteral s = .literal source :: rest) :
    readFrom .inLiteral (t ++ s) = .literal (t ++ source) :: rest := by
  induction t with
  | nil => exact hs
  | cons c t ih =>
      rw [List.forall_mem_cons] at ht
      exact readFrom_inLiteral_plain ht.1 (ih ht.2)

theorem readFrom_inLiteral_escape (letter : CodePoint) {s source : Text} {rest : List Piece}
    (hs : readFrom .inLiteral s = .literal source :: rest) :
    readFrom .inLiteral ('\\' :: letter :: s) = .literal ('\\' :: letter :: source) :: rest := by
  simp [readFrom, hs, addToLiteral]

theorem isPlain_hexDigit {n : Nat} (hn : n < 16) : isPlain (Text.hexDigit n) = true := by
  have all : ∀ m : Fin 16, isPlain (Text.hexDigit m) = true := by decide
  exact all ⟨n, hn⟩

theorem isPlain_of_mem_hex {width n : Nat} {c : CodePoint} (hc : c ∈ Text.hex width n) :
    isPlain c = true := by
  obtain ⟨digit, hdigit, rfl⟩ := Text.exists_hexDigit_of_mem_hex hc
  exact isPlain_hexDigit hdigit

theorem readFrom_inLiteral_units (units : List Nat) {s source : Text} {rest : List Piece}
    (hs : readFrom .inLiteral s = .literal source :: rest) :
    readFrom .inLiteral ((units.flatMap fun unit => ("\\u" : Text) ++ Text.hex 4 unit) ++ s) =
      .literal ((units.flatMap fun unit => ("\\u" : Text) ++ Text.hex 4 unit) ++ source) ::
        rest := by
  induction units with
  | nil => exact hs
  | cons unit units ih =>
      have hdigits := readFrom_inLiteral_append
        (t := Text.hex 4 unit) (fun c hc => isPlain_of_mem_hex hc) ih
      simpa [Text.ofString] using readFrom_inLiteral_escape 'u' hdigits

theorem isPlain_of_escapeLetter?_eq_none {c : CodePoint} (hc : Text.escapeLetter? c = none) :
    isPlain c = true := by
  unfold Text.escapeLetter? at hc
  split_ifs at hc with hquote hslash
  simp only [beq_iff_eq] at hquote hslash
  simp [isPlain, hquote, hslash]

theorem readFrom_inLiteral_escapedChar (c : CodePoint) {s source : Text} {rest : List Piece}
    (hs : readFrom .inLiteral s = .literal source :: rest) :
    readFrom .inLiteral (Text.escapedChar Text.isPlainAscii c ++ s) =
      .literal (Text.escapedChar Text.isPlainAscii c ++ source) :: rest := by
  cases hletter : Text.escapeLetter? c with
  | some letter =>
      simpa [Text.escapedChar, hletter] using readFrom_inLiteral_escape letter hs
  | none =>
      cases hplain : Text.isPlainAscii c with
      | true =>
          have hc : isPlain c = true := isPlain_of_escapeLetter?_eq_none hletter
          simpa [Text.escapedChar, hletter, hplain] using readFrom_inLiteral_plain hc hs
      | false =>
          simpa [Text.escapedChar, hletter, hplain] using
            readFrom_inLiteral_units (Text.units16 c.toNat) hs

theorem readFrom_inLiteral_escaped (s rest : Text) :
    readFrom .inLiteral
        (s.flatMap (Text.escapedChar Text.isPlainAscii) ++ CodePoint.char '"' :: rest) =
      .literal (s.flatMap (Text.escapedChar Text.isPlainAscii) ++ [CodePoint.char '"']) ::
        read rest := by
  induction s with
  | nil => rfl
  | cons c s ih =>
      rw [List.flatMap_cons, List.append_assoc, readFrom_inLiteral_escapedChar c ih,
        List.append_assoc]

/-- A literal is one piece, whatever it holds and whatever stands behind it. -/
theorem read_codeLiteral_append (s rest : Text) :
    read (Text.codeLiteral s ++ rest) = .literal (Text.codeLiteral s) :: read rest := by
  have hbody := readFrom_inLiteral_escaped s rest
  have htext : Text.codeLiteral s ++ rest =
      .char '"' :: (s.flatMap (Text.escapedChar Text.isPlainAscii) ++ .char '"' :: rest) := by
    simp [Text.codeLiteral, Text.literalChars, Text.ofString]
  rw [htext]
  simp only [read, readFrom, beq_self_eq_true, if_true]
  rw [hbody]
  simp [addToLiteral, read, Text.codeLiteral, Text.literalChars, Text.ofString]

theorem read_codeLiteral (s : Text) :
    read (Text.codeLiteral s) = [.literal (Text.codeLiteral s)] := by
  have hread := read_codeLiteral_append s []
  rwa [List.append_nil] at hread

theorem read_name_append {name : Text} (hne : name ≠ []) (hname : ∀ c ∈ name, isNamePart c = true)
    {c : CodePoint} (hc : isNamePart c = false) (hquote : c ≠ '"') (rest : Text) :
    read (name ++ c :: rest) = .name name :: .mark c :: read rest := by
  have hend : readFrom .outside (c :: rest) = .mark c :: readFrom .outside rest := by
    simp [readFrom, hc, hquote]
  induction name with
  | nil => exact absurd rfl hne
  | cons first name ih =>
      rw [List.forall_mem_cons] at hname
      have hfirst : first ≠ '"' := by
        rintro rfl
        exact absurd hname.1 (by decide)
      cases name with
      | nil => simp [read, readFrom, hname.1, hfirst, hc, hquote, addToName]
      | cons second name =>
          have hread := ih (by simp) hname.2
          simp only [read, List.cons_append] at hread ⊢
          simp [readFrom, hname.1, hfirst, addToName] at hread ⊢
          simp [hread]

end Piece

/-- Code that is read in the same way whatever stands behind it: it does not end
inside a name or a literal. -/
def ReadsAlone (code : Text) : Prop :=
  ∀ rest, Piece.read (code ++ rest) = Piece.read code ++ Piece.read rest

theorem readsAlone_codeLiteral (s : Text) : ReadsAlone (Text.codeLiteral s) := fun rest => by
  rw [Piece.read_codeLiteral_append, Piece.read_codeLiteral]
  rfl

theorem ReadsAlone.append {s t : Text} (hs : ReadsAlone s) (ht : ReadsAlone t) :
    ReadsAlone (s ++ t) := fun rest => by
  rw [List.append_assoc, hs, hs, ht, List.append_assoc]

abbrev Bindings := List (Text × Text)

/-- A name with the code that it stands for, or with that of the name in front of
one of its dots. -/
def Bindings.resolve (bindings : Bindings) (name : Text) : Text :=
  match bindings.find? fun (bound, _) => bound = name || (bound ++ ".").isPrefixOf name with
  | some (bound, code) => code ++ name.drop bound.length
  | none => name

/-- A piece with names replaced by what they stand for. -/
def Piece.substitute (bindings : Bindings) : Piece → Text
  | .name text => bindings.resolve text
  | .literal source => source
  | .mark c => [c]

/-- Code with names replaced by what they stand for. -/
def substitute (bindings : Bindings) (code : Text) : Text :=
  (Piece.read code).flatMap (Piece.substitute bindings)

theorem substitute_append (bindings : Bindings) {s : Text} (hs : ReadsAlone s) (t : Text) :
    substitute bindings (s ++ t) = substitute bindings s ++ substitute bindings t := by
  rw [substitute, hs, List.flatMap_append]
  rfl

theorem substitute_codeLiteral (bindings : Bindings) (s : Text) :
    substitute bindings (Text.codeLiteral s) = Text.codeLiteral s := by
  rw [substitute, Piece.read_codeLiteral]
  simp [Piece.substitute]

/-- The literals of a line of code. -/
def literals (code : Text) : List Text := (Piece.read code).filterMap fun
  | .literal source => some source
  | _ => none

theorem literals_append {s : Text} (hs : ReadsAlone s) (t : Text) :
    literals (s ++ t) = literals s ++ literals t := by
  rw [literals, hs, List.filterMap_append]
  rfl

theorem literals_eq_nil {code : Text} (hcode : ∀ c ∈ code, c ≠ '"') : literals code = [] := by
  induction code with
  | nil => rfl
  | cons c code ih =>
      rw [List.forall_mem_cons] at hcode
      have hrest := ih hcode.2
      simp only [literals, Piece.read] at hrest ⊢
      simp only [Piece.readFrom, beq_iff_eq, hcode.1, if_false]
      split
      · -- a name is no literal, and neither is one that it is joined to
        cases hpieces : Piece.readFrom .outside code with
        | nil => rfl
        | cons piece rest =>
            rw [hpieces] at hrest
            cases piece <;> simp_all [Piece.addToName]
      · simpa using hrest

theorem literals_codeLiteral (s : Text) :
    literals (Text.codeLiteral s) = [Text.codeLiteral s] := by
  rw [literals, Piece.read_codeLiteral]
  rfl

end PageScript.Suite
