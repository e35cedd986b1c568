import PageScript.Proofs.CallCode
import PageScript.Suite.TestModule
/-!
What generated code is made of: the words of a fixed vocabulary, literals, and names
made beforehand.  A text that a scenario brings along gets into code inside a literal or as
a name, so it neither begins a remark nor ends a line.
-/

namespace PageScript

theorem Name.isPlainAscii_of_isSafe {c : CodePoint} (hc : isSafe c = true) :
    Text.isPlainAscii c = true := by
  have all : ∀ n : Fin 0x80, isSafe (.char (Char.ofNat n)) = true →
      Text.isPlainAscii (.char (Char.ofNat n)) = true := by decide
  obtain ⟨n, rfl⟩ := exists_char_of_isSafe hc
  exact all n hc

namespace Text

theorem isPlainAscii_escapeLetter {c letter : CodePoint} (hletter : escapeLetter? c = some letter) :
    isPlainAscii letter = true := by
  unfold escapeLetter? at hletter
  split_ifs at hletter
  all_goals
    obtain rfl := Option.some.inj hletter
    decide

theorem isPlainAscii_of_mem_escapedChar {c d : CodePoint}
    (hd : d ∈ escapedChar isPlainAscii c) : isPlainAscii d = true := by
  unfold escapedChar at hd
  split at hd
  · rename_i letter hletter
    rcases List.mem_cons.mp hd with rfl | hd
    · decide
    · obtain rfl := List.mem_singleton.mp hd
      exact isPlainAscii_escapeLetter hletter
  · split at hd
    · rename_i hplain
      obtain rfl := List.mem_singleton.mp hd
      exact hplain
    · obtain ⟨unit, -, hd⟩ := List.mem_flatMap.mp hd
      rcases List.mem_append.mp hd with hd | hd
      · have hmark : ∀ e ∈ Text.ofString "\\u", isPlainAscii e = true := by decide
        exact hmark d hd
      · exact Name.isPlainAscii_of_isSafe (Name.isSafeText_hex 4 unit d hd)

theorem isPlainAscii_of_mem_codeLiteral {s : Text} {c : CodePoint} (hc : c ∈ codeLiteral s) :
    isPlainAscii c = true := by
  have hquote : ∀ d ∈ Text.ofString "\"", isPlainAscii d = true := by decide
  rw [codeLiteral, literalChars] at hc
  rcases List.mem_append.mp hc with hc | hc
  · rcases List.mem_append.mp hc with hc | hc
    · exact hquote c hc
    · obtain ⟨d, -, hc⟩ := List.mem_flatMap.mp hc
      exact isPlainAscii_of_mem_escapedChar hc
  · exact hquote c hc

end Text

namespace Suite

def isRemark (line : Text) : Bool := (line.dropWhile Text.isBlank).head? == some (.char '#')

theorem isRemark_append (s t : Text) :
    isRemark (s ++ t) = if s.all Text.isBlank then isRemark t else isRemark s := by
  induction s with
  | nil => rfl
  | cons c s ih =>
      cases hc : Text.isBlank c with
      | true => simpa [isRemark, hc] using ih
      | false => simp [isRemark, hc]

theorem isRemark_eq_false {s : Text} (hs : .char '#' ∉ s) : isRemark s = false := by
  have hhead : (s.dropWhile Text.isBlank).head? ≠ some (.char '#') := fun hhead =>
    hs ((List.dropWhile_sublist _).subset (List.mem_of_head? hhead))
  simpa [isRemark] using hhead

/-- The words of the code around the steps: of imports and of definitions. -/
def frameWords : List Text :=
  ["from playwright.sync_api import Page, expect", "from ", " import ", "def test_",
   "(page: Page):", " = ", "(page)", "pass", "class ", ":", "def __init__(self, page: Page):",
   "self.page = page",
   "def ", "(self", ", value: str", "):", "(self, value: str, sequentially: bool = False):",
   "locator = ", "if sequentially:", "locator.press_sequentially(value)", "else:",
   "locator.fill(value)"]

/-- The words of the code of steps: of locators and of calls. -/
def callWords : List Text :=
  ["page", "self.page", ".locator(", ".get_by_role(", ".get_by_text(", ".get_by_test_id(",
   ".get_by_label(", ", name=", ", exact=True)", ")", ".goto(", ".wait_for_timeout(", ".fill(",
   ".press_sequentially(", ".select_option(", ".click()", ".hover()", ".wait_for()", "expect(",
   ").to_be_visible()", "value", ".", "(", ", ", "sequentially=True"]

/-- The words that code is made of, apart from names and literals. -/
def vocabulary : List Text := "    " :: (frameWords ++ callWords)

/-- Code that consists of words of the vocabulary, of literals, and of `names`. -/
inductive Written (names : List Text) : Text → Prop where
  | nil : Written names []
  | word {word rest : Text} : word ∈ vocabulary → Written names rest → Written names (word ++ rest)
  | literal (text : Text) {rest : Text} :
      Written names rest → Written names (Text.codeLiteral text ++ rest)
  | name {name rest : Text} : name ∈ names → Written names rest → Written names (name ++ rest)

namespace Written

variable {names : List Text}

theorem append {s t : Text} (hs : Written names s) (ht : Written names t) :
    Written names (s ++ t) := by
  induction hs with
  | nil => exact ht
  | word hword _ ih =>
      rw [List.append_assoc]
      exact .word hword ih
  | literal text _ ih =>
      rw [List.append_assoc]
      exact .literal text ih
  | name hname _ ih =>
      rw [List.append_assoc]
      exact .name hname ih

theorem ofWord {word : Text} (hword : word ∈ vocabulary) : Written names word := by
  simpa using Written.word hword .nil

theorem ofFrameWord {word : Text} (hword : word ∈ frameWords) : Written names word :=
  ofWord (List.mem_cons_of_mem _ (List.mem_append_left _ hword))

theorem ofCallWord {word : Text} (hword : word ∈ callWords) : Written names word :=
  ofWord (List.mem_cons_of_mem _ (List.mem_append_right _ hword))

theorem ofLiteral (text : Text) : Written names (Text.codeLiteral text) := by
  simpa using Written.literal text .nil

theorem ofName {name : Text} (hname : name ∈ names) : Written names name := by
  simpa using Written.name hname .nil

/-- The words of the code are plain, and none of them can begin a remark. -/
theorem plain_of_mem_vocabulary :
    ∀ word ∈ vocabulary, ∀ c ∈ word, Text.isPlainAscii c = true ∧ c ≠ .char '#' := by
  decide +kernel

theorem isPlainAscii_of_mem (hnames : ∀ name ∈ names, Name.IsSafeText name) {code : Text}
    (hcode : Written names code) : ∀ c ∈ code, Text.isPlainAscii c = true := by
  induction hcode with
  | nil => exact fun c hc => absurd hc List.not_mem_nil
  | word hword _ ih =>
      exact List.forall_mem_append.mpr ⟨fun c hc => (plain_of_mem_vocabulary _ hword c hc).1, ih⟩
  | literal text _ ih =>
      exact List.forall_mem_append.mpr ⟨fun c hc => Text.isPlainAscii_of_mem_codeLiteral hc, ih⟩
  | name hname _ ih =>
      refine List.forall_mem_append.mpr ⟨fun c hc => ?_, ih⟩
      exact Name.isPlainAscii_of_isSafe (hnames _ hname c hc)

theorem isRemark_eq_false (hnames : ∀ name ∈ names, Name.IsSafeText name) {code : Text}
    (hcode : Written names code) : isRemark code = false := by
  have hwords : ∀ word ∈ vocabulary, .char '#' ∉ word :=
    fun word hword hmem => (plain_of_mem_vocabulary word hword _ hmem).2 rfl
  induction hcode with
  | nil => rfl
  | word hword _ ih =>
      rw [isRemark_append, Suite.isRemark_eq_false (hwords _ hword), ih, ite_self]
  | literal text _ ih => rfl -- it begins with its quote
  | @name name _ hname _ ih =>
      have hsafe : .char '#' ∉ name := fun hmem => absurd (hnames name hname _ hmem) (by decide)
      rw [isRemark_append, Suite.isRemark_eq_false hsafe, ih, ite_self]

theorem mem_flatten_of_mem {code : Text} (hcode : Written names code) (hquote : .char '"' ∉ code) :
    ∀ c ∈ code, c ∈ vocabulary.flatten ∨ c ∈ names.flatten := by
  induction hcode with
  | nil => exact fun c hc => absurd hc List.not_mem_nil
  | word hword _ ih =>
      rw [List.mem_append, not_or] at hquote
      refine List.forall_mem_append.mpr ⟨fun c hc => ?_, ih hquote.2⟩
      exact .inl (List.mem_flatten_of_mem hword hc)
  | literal text _ _ => exact absurd List.mem_cons_self hquote
  | name hname _ ih =>
      rw [List.mem_append, not_or] at hquote
      refine List.forall_mem_append.mpr ⟨fun c hc => ?_, ih hquote.2⟩
      exact .inr (List.mem_flatten_of_mem hname hc)

end Written

section Calls

variable {names : List Text} {base : Text}

theorem IsPageName.written (hbase : IsPageName base) : Written names base := by
  cases hbase <;> exact .ofCallWord (by simp [callWords])

theorem Locator.written_code (hbase : IsPageName base) (element : Locator) :
    Written names (element.code base) := by
  have hopening : Written names element.opening := by
    cases element <;> exact .ofCallWord (by simp [callWords, opening])
  have hend : Written names ")" := .ofCallWord (by simp [callWords])
  have hclosing : Written names element.closing := by
    rcases element with target | ⟨found, name | name⟩ | ⟨shown, exact | exact⟩ | id | name
    case role.some =>
      have hname : Written names ", name=" := .ofCallWord (by simp [callWords])
      exact (hname.append (.ofLiteral name)).append hend
    case text.true => exact .ofCallWord (by simp [callWords, closing])
    all_goals exact hend
  rw [code_eq]
  exact ((hbase.written.append hopening).append (.ofLiteral _)).append hclosing

theorem Argument.written_code (argument : Argument) : Written names argument.code := by
  cases argument with
  | literal text => exact .ofLiteral text
  | parameter => exact .ofCallWord (by simp [callWords, code])

/-- Calls are made of words and literals, but for the number that a pause names. -/
theorem Call.written_code (hbase : IsPageName base) {call : Call}
    (hpause : ∀ milliseconds, call = .pause milliseconds → (toString milliseconds : Text) ∈ names) :
    Written names (call.code base) := by
  have hend : Written names ")" := .ofCallWord (by simp [callWords])
  have hopening (opening : Text) (hword : opening ∈ callWords) : Written names (base ++ opening) :=
    hbase.written.append (.ofCallWord hword)
  have hclick (element : Locator) (closing : Text) (hword : closing ∈ callWords) :
      Written names (element.code base ++ closing) :=
    (element.written_code hbase).append (.ofCallWord hword)
  have hfill (element : Locator) (opening : Text) (hword : opening ∈ callWords)
      (argument : Argument) :
      Written names (element.code base ++ opening ++ argument.code ++ ")") :=
    ((hclick element opening hword).append argument.written_code).append hend
  cases call with
  | goto url =>
      exact ((hopening ".goto(" (by simp [callWords])).append (.ofLiteral url)).append hend
  | pause milliseconds =>
      have hnumber := Written.ofName (hpause milliseconds rfl)
      exact ((hopening ".wait_for_timeout(" (by simp [callWords])).append hnumber).append hend
  | fill element argument => exact hfill element ".fill(" (by simp [callWords]) argument
  | type element argument =>
      exact hfill element ".press_sequentially(" (by simp [callWords]) argument
  | select element argument => exact hfill element ".select_option(" (by simp [callWords]) argument
  | click element => exact hclick element ".click()" (by simp [callWords])
  | hover element => exact hclick element ".hover()" (by simp [callWords])
  | waitFor element => exact hclick element ".wait_for()" (by simp [callWords])
  | expectVisible element =>
      have hexpect : Written names "expect(" := .ofCallWord (by simp [callWords])
      have hvisible : Written names ").to_be_visible()" := .ofCallWord (by simp [callWords])
      exact (hexpect.append (element.written_code hbase)).append hvisible

theorem Statement.written_code {object : Text} {statement : Statement}
    (hpause : ∀ milliseconds, statement = .call (.pause milliseconds) →
      (toString milliseconds : Text) ∈ names)
    (hmethod : ∀ name data? sequentially, statement = .method name data? sequentially →
      object ∈ names ∧ name ∈ names) :
    Written names (statement.code object) := by
  cases statement with
  | call inline =>
      exact Call.written_code .ofTest fun milliseconds hcall => hpause milliseconds (hcall ▸ rfl)
  | method name data? sequentially =>
      obtain ⟨hobject, hname⟩ := hmethod name data? sequentially rfl
      have hdot : Written names "." := .ofCallWord (by simp [callWords])
      have hbegin : Written names "(" := .ofCallWord (by simp [callWords])
      have hcomma : Written names ", " := .ofCallWord (by simp [callWords])
      have hflag : Written names "sequentially=True" := .ofCallWord (by simp [callWords])
      have hend : Written names ")" := .ofCallWord (by simp [callWords])
      have harguments : Written names ((", " : Text).intercalate
          ((data?.map Text.codeLiteral).toList ++
            (if sequentially then ["sequentially=True"] else [] : List Text))) := by
        cases data? with
        | none => cases sequentially with
          | false => exact .nil
          | true => exact hflag
        | some data => cases sequentially with
          | false => simpa [List.intercalate] using Written.ofLiteral data
          | true =>
              have hboth := (Written.ofLiteral data).append (hcomma.append hflag)
              simpa [List.intercalate] using hboth
      rw [Statement.code]
      exact ((((Written.ofName hobject).append hdot).append (.ofName hname)).append hbegin).append
        harguments |>.append hend

end Calls

end Suite

end PageScript
