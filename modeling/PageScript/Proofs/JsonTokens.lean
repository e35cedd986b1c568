import PageScript.Proofs.ReadingLimits
import PageScript.Proofs.TrimmedTexts

namespace PageScript.Datum.Json

open Reply (isOpening)

variable {s tail whole rest : Text} {v : Datum}

/-- No number goes on at the front of the text. -/
def EndsNumber (tail : Text) : Prop :=
  ∀ c ∈ tail.head?, c.isDigit = false ∧ c ≠ .char '.' ∧ c ≠ .char 'e' ∧ c ≠ .char 'E'

theorem EndsNumber.isDigit (h : EndsNumber tail) : ∀ c ∈ tail.head?, c.isDigit = false :=
  fun c hc => (h c hc).1

theorem gap_cases {c : CodePoint} (hc : isGap c = true) :
    ((c = .char ' ' ∨ c = .char '\t') ∨ c = .char '\n') ∨ c = .char '\r' := by
  simpa only [isGap, Bool.or_eq_true, beq_iff_eq] using hc

theorem opening_cases {c : CodePoint} (hc : isOpening c = true) :
    c = .char '\x7b' ∨ c = .char '[' := by
  simpa only [isOpening, Bool.or_eq_true, beq_iff_eq] using hc

theorem isOpening_of_isDigit {c : CodePoint} (hc : c.isDigit = true) : isOpening c = false := by
  rw [isOpening, beq_eq_false_iff_ne.mpr (ne_of_isDigit hc (by decide)),
    beq_eq_false_iff_ne.mpr (ne_of_isDigit hc (by decide)), Bool.or_false]

/-- A bracket, or one of the marks by which strings begin, end and escape. -/
def isMark (c : CodePoint) : Bool :=
  isOpening c || c == ']' || c == '\x7d' || c == '"' || c == '\\'

theorem isOpening_of_isMark {c : CodePoint} (hc : isMark c = false) : isOpening c = false := by
  simp only [isMark, Bool.or_eq_false_iff] at hc
  exact hc.1.1.1.1

theorem isMark_of_isDigit {c : CodePoint} (hc : c.isDigit = true) : isMark c = false := by
  simp only [isMark, isOpening_of_isDigit hc, Bool.false_or, Bool.or_eq_false_iff,
    beq_eq_false_iff_ne]
  exact ⟨⟨⟨ne_of_isDigit hc (by decide), ne_of_isDigit hc (by decide)⟩,
    ne_of_isDigit hc (by decide)⟩, ne_of_isDigit hc (by decide)⟩

/-- Neither a blank nor one of the marks around values and texts. -/
def isPlain (c : CodePoint) : Bool :=
  !isGap c && !isOpening c && c != .char '"' && c != .char ']' && c != .char '\x7d'

theorem isPlain_of_isDigit {c : CodePoint} (hc : c.isDigit = true) : isPlain c = true := by
  rw [isPlain, isGap_of_isDigit hc, isOpening_of_isDigit hc,
    bne_iff_ne.mpr (ne_of_isDigit hc (by decide)), bne_iff_ne.mpr (ne_of_isDigit hc (by decide)),
    bne_iff_ne.mpr (ne_of_isDigit hc (by decide))]
  rfl

/-- The bracket that a list or a map ends with. -/
def closing? : Datum → Option CodePoint
  | .list _ => some ']'
  | .map _ => some '\x7d'
  | _ => none

theorem wholePart?_append (h : wholePart? s = some (whole, rest))
    (htail : ∀ c ∈ tail.head?, c.isDigit = false) :
    whole ≠ [] ∧ wholePart? (whole ++ tail) = some (whole, tail) := by
  unfold wholePart? at h
  split at h
  · obtain ⟨rfl, -⟩ := Prod.mk.inj (Option.some.inj h)
    exact ⟨List.cons_ne_nil _ _, rfl⟩
  · rename_i hzero
    dsimp only at h
    split at h
    · exact absurd h nofun
    · rename_i hdigits
      obtain ⟨hwhole, -⟩ := Prod.mk.inj (Option.some.inj h)
      rw [hwhole] at hdigits
      obtain ⟨htake, hdrop⟩ := takeWhile_append_of_head (p := CodePoint.isDigit) (s := whole)
        (fun c hc => List.mem_takeWhile_imp (hwhole ▸ hc)) htail
      have hne : whole ≠ [] := by simpa using hdigits
      refine ⟨hne, ?_⟩
      -- The digits do not begin with a zero, since the text that they are read from does not.
      have hnot : ∀ more, whole ++ tail ≠ .char '0' :: more := by
        intro more hmore
        obtain ⟨c, digits, rfl⟩ := List.exists_cons_of_ne_nil hne
        obtain ⟨rfl, -⟩ := List.cons.inj hmore
        have hsplit := List.takeWhile_append_dropWhile (p := CodePoint.isDigit) (l := s)
        rw [hwhole] at hsplit
        exact hzero _ hsplit.symm
      unfold wholePart?
      split
      · rename_i more hmore
        exact absurd hmore (hnot more)
      · rw [htake, hdrop, if_neg hdigits]

theorem exists_fractionPart (s : Text) : ∃ used, s = used ++ (fractionPart s).2 ∧
    (∀ c ∈ used.head?, c = .char '.') ∧ (∀ c ∈ used, isMark c = false) ∧
    ∀ tail, (∀ c ∈ tail.head?, c.isDigit = false ∧ c ≠ .char '.') →
      fractionPart (used ++ tail) = ((fractionPart s).1, tail) := by
  have hnone : ∀ tail : Text, (∀ c ∈ tail.head?, c.isDigit = false ∧ c ≠ .char '.') →
      fractionPart tail = ([], tail) := by
    intro tail htail
    unfold fractionPart
    split
    · exact absurd rfl (htail _ rfl).2
    · rfl
  unfold fractionPart
  split
  · rename_i rest
    dsimp only
    split
    · exact ⟨[], rfl, nofun, nofun, hnone⟩
    · rename_i hdigits
      refine ⟨.char '.' :: rest.takeWhile CodePoint.isDigit, ?_, by simp, ?_, fun tail htail => ?_⟩
      · rw [List.cons_append, List.takeWhile_append_dropWhile]
      · rw [List.forall_mem_cons]
        exact ⟨by decide, fun c hc => isMark_of_isDigit (List.mem_takeWhile_imp hc)⟩
      · obtain ⟨htake, hdrop⟩ := takeWhile_append_of_head
          (fun c hc => List.mem_takeWhile_imp (l := rest) hc) fun c hc => (htail c hc).1
        simp only [List.cons_append, htake, hdrop, hdigits]
        rfl
  · exact ⟨[], rfl, nofun, nofun, hnone⟩

def exponentSign (rest : Text) : Bool × Text :=
  match rest with
  | .char '-' :: body => (true, body)
  | .char '+' :: body => (false, body)
  | body => (false, body)

theorem exponentPart_cons (c : CodePoint) (rest : Text) :
    exponentPart (c :: rest) =
      if c == .char 'e' || c == .char 'E' then
        let digits := (exponentSign rest).2.takeWhile CodePoint.isDigit
        if digits.isEmpty then (none, c :: rest)
        else
          let n : Int := Text.numberOf digits
          (some (if (exponentSign rest).1 then -n else n),
            (exponentSign rest).2.dropWhile CodePoint.isDigit)
      else (none, c :: rest) :=
  rfl

theorem exists_exponentSign (rest : Text) : ∃ sign, rest = sign ++ (exponentSign rest).2 ∧
    (∀ c ∈ sign, isMark c = false) ∧ ∀ c digits, c.isDigit = true →
      exponentSign (sign ++ c :: digits) = ((exponentSign rest).1, c :: digits) := by
  unfold exponentSign
  split
  · exact ⟨[.char '-'], rfl, by decide, fun _ _ _ => rfl⟩
  · exact ⟨[.char '+'], rfl, by decide, fun _ _ _ => rfl⟩
  · refine ⟨[], rfl, nofun, fun c digits hc => ?_⟩
    rw [List.nil_append]
    split
    · rename_i heq
      exact absurd (List.cons.inj heq).1 (ne_of_isDigit hc (by decide))
    · rename_i heq
      exact absurd (List.cons.inj heq).1 (ne_of_isDigit hc (by decide))
    · rfl

theorem exists_exponentPart (s : Text) : ∃ used, s = used ++ (exponentPart s).2 ∧
    (∀ c ∈ used.head?, c = .char 'e' ∨ c = .char 'E') ∧ (∀ c ∈ used, isMark c = false) ∧
    ∀ tail, EndsNumber tail → exponentPart (used ++ tail) = ((exponentPart s).1, tail) := by
  have hnone : ∀ tail : Text, EndsNumber tail → exponentPart tail = (none, tail) := by
    intro tail htail
    cases tail with
    | nil => rfl
    | cons c tail =>
        obtain ⟨-, -, he, hE⟩ := htail c rfl
        simp only [exponentPart_cons, beq_eq_false_iff_ne.mpr he, beq_eq_false_iff_ne.mpr hE,
          Bool.or_false, Bool.false_eq_true, if_false]
  cases s with
  | nil => exact ⟨[], rfl, nofun, nofun, hnone⟩
  | cons c rest =>
      rw [exponentPart_cons]
      obtain ⟨sign, hrest, hsign, hsigned⟩ := exists_exponentSign rest
      split
      · rename_i hmark
        have hc : c = .char 'e' ∨ c = .char 'E' := by simpa using hmark
        dsimp only
        split
        · exact ⟨[], rfl, nofun, nofun, hnone⟩
        · rename_i hdigits
          obtain ⟨d, digits, heq⟩ := List.exists_cons_of_ne_nil
            (List.isEmpty_eq_false_iff.mp (Bool.eq_false_iff.mpr hdigits))
          have hall : ∀ x ∈ d :: digits, CodePoint.isDigit x = true := fun x hx =>
            List.mem_takeWhile_imp (heq ▸ hx)
          rw [heq]
          refine ⟨c :: (sign ++ d :: digits), ?_, by simpa using hc, ?_, fun tail htail => ?_⟩
          · rw [List.cons_append, List.append_assoc, ← heq, List.takeWhile_append_dropWhile,
              ← hrest]
          · rw [List.forall_mem_cons, List.forall_mem_append]
            refine ⟨?_, hsign, fun x hx => isMark_of_isDigit (hall x hx)⟩
            rcases hc with rfl | rfl <;> decide
          · obtain ⟨htake, hdrop⟩ := takeWhile_append_of_head hall htail.isDigit
            have hbehind := hsigned d (digits ++ tail) (hall d List.mem_cons_self)
            rw [List.cons_append, List.append_assoc, List.cons_append, exponentPart_cons,
              if_pos hmark, hbehind]
            rw [List.cons_append] at htake hdrop
            simp only [htake, hdrop, List.isEmpty_cons, Bool.false_eq_true, if_false]
      · exact ⟨[], rfl, nofun, nofun, hnone⟩

def numberFrom (negative : Bool) (whole fraction : Text) (exponent? : Option Int) :
    Except ReadError Datum :=
  if fraction.isEmpty && exponent?.isNone then
    if Text.maxDigits < whole.length then .error (.tooManyDigits whole.length)
    else
      let n : Int := Text.numberOf whole
      .ok (.int (if negative then -n else n))
  else
    let exponent := exponent?.getD 0 - fraction.length
    .ok (.float (.ofDecimal negative (Text.numberOf (whole ++ fraction)) exponent))

theorem number_of_wholePart? (negative : Bool) (h : wholePart? s = some (whole, rest)) :
    number negative s =
      (numberFrom negative whole (fractionPart rest).1 (exponentPart (fractionPart rest).2).1).map
        fun v => (v, (exponentPart (fractionPart rest).2).2) := by
  rw [number, h]
  dsimp only
  unfold numberFrom
  split
  · split <;> rfl
  · rfl

/-- A number is read in the same way wherever it cannot go on. -/
theorem number_append {negative : Bool} (h : number negative s = .ok (v, rest)) :
    ∃ c used, s = c :: used ++ rest ∧ c.isDigit = true ∧
      (∀ d ∈ c :: used, isMark d = false) ∧
      ∀ tail, EndsNumber tail → number negative (c :: used ++ tail) = .ok (v, tail) := by
  cases hwhole : wholePart? s with
  | none => exact absurd h (by simp [number, hwhole])
  | some found =>
      obtain ⟨whole, behind⟩ := found
      obtain ⟨rfl, hdigits⟩ := wholePart?_eq_some hwhole
      obtain ⟨fraction, hfraction, hdot, hfractionPlain, hfractionRead⟩ :=
        exists_fractionPart behind
      obtain ⟨exponent, hexponent, hmark, hexponentPlain, hexponentRead⟩ :=
        exists_exponentPart (fractionPart behind).2
      rw [number_of_wholePart? negative hwhole] at h
      obtain ⟨_, hvalue, hparts⟩ := map_eq_ok h
      obtain ⟨rfl, rfl⟩ := Prod.mk.inj hparts
      have hnone : ∀ c ∈ ([] : Text).head?, c.isDigit = false :=
        fun c hc => absurd hc (Option.not_mem_none c)
      obtain ⟨c, digits, rfl⟩ := List.exists_cons_of_ne_nil (wholePart?_append hwhole hnone).1
      refine ⟨c, digits ++ (fraction ++ exponent), ?_, hdigits c List.mem_cons_self, ?_, ?_⟩
      · rw [← List.cons_append, List.append_assoc, List.append_assoc, ← hexponent, ← hfraction]
      · rw [← List.cons_append, List.forall_mem_append, List.forall_mem_append]
        exact ⟨fun d hd => isMark_of_isDigit (hdigits d hd), hfractionPlain, hexponentPlain⟩
      · intro tail htail
        have hbehindFraction : ∀ d ∈ (exponent ++ tail).head?,
            d.isDigit = false ∧ d ≠ .char '.' := by
          intro d hd
          rcases mem_head?_append hd with hd | hd
          · rcases hmark d hd with rfl | rfl <;> decide
          · exact ⟨(htail d hd).1, (htail d hd).2.1⟩
        have hbehindWhole : ∀ d ∈ (fraction ++ (exponent ++ tail)).head?, d.isDigit = false := by
          intro d hd
          rcases mem_head?_append hd with hd | hd
          · rw [hdot d hd]
            rfl
          · exact (hbehindFraction d hd).1
        have htext : c :: (digits ++ (fraction ++ exponent)) ++ tail =
            c :: digits ++ (fraction ++ (exponent ++ tail)) := by simp
        rw [htext, number_of_wholePart? negative (wholePart?_append hwhole hbehindWhole).2,
          hfractionRead _ hbehindFraction, hexponentRead _ htail]
        exact congrArg (Except.map fun v => (v, tail)) hvalue

theorem number_error {negative : Bool} {error : ReadError} (h : number negative s = .error error) :
    error = .malformed ∨ ∃ run, run <+: s ∧ (∀ c ∈ run, c.isDigit = true) ∧
      Text.maxDigits < run.length ∧ error = .tooManyDigits run.length := by
  cases hwhole : wholePart? s with
  | none =>
      rw [number, hwhole] at h
      exact .inl (Except.error.inj h).symm
  | some found =>
      obtain ⟨whole, behind⟩ := found
      obtain ⟨rfl, hdigits⟩ := wholePart?_eq_some hwhole
      rw [number_of_wholePart? negative hwhole, numberFrom] at h
      split at h
      · split at h
        · rename_i hlong
          exact .inr ⟨whole, List.prefix_append whole behind, hdigits, hlong,
            (Except.error.inj h).symm⟩
        · cases h
      · cases h

theorem closing?_of_number {negative : Bool} (h : number negative s = .ok (v, rest)) :
    closing? v = none := by
  cases hwhole : wholePart? s with
  | none => exact absurd h (by simp [number, hwhole])
  | some found =>
      rw [number_of_wholePart? negative hwhole] at h
      obtain ⟨_, hvalue, hparts⟩ := map_eq_ok h
      obtain ⟨rfl, -⟩ := Prod.mk.inj hparts
      unfold numberFrom at hvalue
      split at hvalue
      · split at hvalue
        · cases hvalue
        · obtain rfl := Except.ok.inj hvalue
          rfl
      · obtain rfl := Except.ok.inj hvalue
        rfl

theorem constant?_of_mem {entry : Text × Datum} (hentry : entry ∈ constants) (tail : Text) :
    constant? (entry.1 ++ tail) = some (entry.2, tail) ∧ closing? entry.2 = none ∧
      ∃ c used, entry.1 = c :: used ∧ isPlain c = true ∧ ∀ d ∈ c :: used, isMark d = false := by
  simp only [constants, List.mem_cons, List.not_mem_nil, or_false] at hentry
  rcases hentry with rfl | rfl | rfl | rfl | rfl | rfl
  all_goals exact ⟨rfl, rfl, _, _, rfl, by decide, by decide⟩

theorem exists_constant {found : Datum × Text} (h : constant? s = some found) :
    ∃ entry ∈ constants, s = entry.1 ++ found.2 ∧ found.1 = entry.2 := by
  obtain ⟨⟨word, data⟩, hentry, rfl⟩ := Option.map_eq_some_iff.mp h
  have hprefix : word.isPrefixOf s = true := by simpa using List.find?_some hentry
  obtain ⟨rest, rfl⟩ := List.isPrefixOf_iff_prefix.mp hprefix
  refine ⟨(word, data), List.mem_of_find?_eq_some hentry, ?_, rfl⟩
  exact congrArg (word ++ ·) (List.drop_left).symm

theorem constant?_of_minus {c : CodePoint} (hc : c.isDigit = true) (s : Text) :
    constant? (.char '-' :: c :: s) = none := by
  have hconstants : ∀ entry ∈ constants,
      (∃ first ∈ entry.1.head?, first ≠ .char '-') ∨ [.char '-', .char 'I'] <+: entry.1 := by
    decide
  rw [constant?, Option.map_eq_none_iff, List.find?_eq_none]
  intro entry hentry hprefix
  have hprefix := List.isPrefixOf_iff_prefix.mp hprefix
  rcases hconstants entry hentry with ⟨first, hfirst, hne⟩ | hminus
  · obtain ⟨more, hword⟩ := hprefix
    have hhead : (entry.1 ++ more).head? = some first := by
      rw [List.head?_append, Option.mem_def.mp hfirst, Option.some_or]
    rw [hword] at hhead
    exact hne (Option.some.inj hhead).symm
  · obtain ⟨rfl, -⟩ := List.cons_prefix_cons.mp (List.cons_prefix_cons.mp (hminus.trans hprefix)).2
    exact absurd hc (by decide)

theorem scalar_append (h : scalar s = .ok (v, rest)) :
    closing? v = none ∧ ∃ c used, s = c :: used ++ rest ∧ isPlain c = true ∧
      (∀ d ∈ c :: used, isMark d = false) ∧
      ∀ tail, EndsNumber tail → scalar (c :: used ++ tail) = .ok (v, tail) := by
  unfold scalar at h
  split at h
  · rename_i found hfound
    obtain rfl := Except.ok.inj h
    obtain ⟨entry, hentry, rfl, rfl⟩ := exists_constant hfound
    obtain ⟨-, hclosing, c, used, hword, hc, hplain⟩ := constant?_of_mem hentry []
    refine ⟨hclosing, c, used, by rw [hword], hc, hplain, fun tail _ => ?_⟩
    rw [← hword]
    unfold scalar
    rw [(constant?_of_mem hentry tail).1]
  · split at h
    · obtain ⟨c, used, rfl, hc, hplain, hread⟩ := number_append h
      refine ⟨closing?_of_number h, .char '-', c :: used, rfl, by decide, ?_, fun tail htail => ?_⟩
      · rw [List.forall_mem_cons]
        exact ⟨by decide, hplain⟩
      · rw [List.cons_append, List.cons_append, scalar, constant?_of_minus hc]
        exact hread tail htail
    · obtain ⟨c, used, rfl, hc, hplain, hread⟩ := number_append h
      refine ⟨closing?_of_number h, c, used, rfl, isPlain_of_isDigit hc, hplain, ?_⟩
      intro tail htail
      rw [List.cons_append, scalar, constant?_of_isDigit hc]
      · exact hread tail htail
      · rintro more heq
        exact absurd (List.cons.inj heq).1 (ne_of_isDigit hc (by decide))

/-- A scalar is refused as malformed, or for a run of digits at the front of the text. -/
theorem scalar_error {error : ReadError} (h : scalar s = .error error) :
    error = .malformed ∨ ∃ run, (run <+: s ∨ .char '-' :: run <+: s) ∧
      (∀ c ∈ run, c.isDigit = true) ∧ Text.maxDigits < run.length := by
  unfold scalar at h
  split at h
  · exact absurd h nofun
  · split at h
    · rcases number_error h with hmalformed | ⟨run, hrun, hdigits, hlong, -⟩
      · exact .inl hmalformed
      · exact .inr ⟨run, .inr ((List.prefix_cons_inj _).mpr hrun), hdigits, hlong⟩
    · rcases number_error h with hmalformed | ⟨run, hrun, hdigits, hlong, -⟩
      · exact .inl hmalformed
      · exact .inr ⟨run, .inl hrun, hdigits, hlong⟩

theorem pieces_append {found : List Piece} (h : pieces s = some (found, rest)) :
    ∃ used, s = used ++ rest ∧ ∀ tail, pieces (used ++ tail) = some (found, tail) := by
  fun_induction pieces s generalizing found with
  | case1 s =>
      obtain ⟨rfl, rfl⟩ := Prod.mk.inj (Option.some.inj h)
      exact ⟨[.char '"'], rfl, fun tail => by rw [List.singleton_append, pieces]⟩
  | case2 a b c d s n hn ih =>
      obtain ⟨⟨more, rest⟩, hmore, hfound⟩ := Option.map_eq_some_iff.mp h
      obtain ⟨rfl, rfl⟩ := Prod.mk.inj hfound
      obtain ⟨used, rfl, hread⟩ := ih hmore
      refine ⟨.char '\\' :: .char 'u' :: a :: b :: c :: d :: used, rfl, fun tail => ?_⟩
      simp only [List.cons_append, pieces, hn, hread, Option.map_some]
  | case4 c s hc found' hletter ih =>
      obtain ⟨⟨more, rest⟩, hmore, hfound⟩ := Option.map_eq_some_iff.mp h
      obtain ⟨rfl, rfl⟩ := Prod.mk.inj hfound
      obtain ⟨used, rfl, hread⟩ := ih hmore
      refine ⟨.char '\\' :: c :: used, rfl, fun tail => ?_⟩
      have hne : c ≠ .char 'u' := by
        rintro rfl
        have hnone : unescapeLetter? (.char 'u') = none := by decide
        exact absurd (hnone.symm.trans hletter) nofun
      rw [List.cons_append, List.cons_append, pieces, hletter]
      · simp only [hread, Option.map_some]
      · rintro _ _ _ _ _ rfl
        exact absurd rfl hne
  | case7 c s hquote _ _ hplain ih =>
      obtain ⟨⟨more, rest⟩, hmore, hfound⟩ := Option.map_eq_some_iff.mp h
      obtain ⟨rfl, rfl⟩ := Prod.mk.inj hfound
      obtain ⟨used, rfl, hread⟩ := ih hmore
      have hslash : c ≠ .char '\\' := by
        rintro rfl
        exact hplain rfl
      refine ⟨c :: used, rfl, fun tail => ?_⟩
      rw [List.cons_append, pieces, if_neg hplain, hread]
      · rfl
      · exact hquote
      · exact fun _ _ _ _ _ h => absurd h hslash
      · exact fun _ _ h => absurd h hslash
  | case3 | case5 | case6 | case8 => exact absurd h nofun

theorem string_append {found : Text} (h : string s = .ok (found, rest)) :
    ∃ used, s = used ++ rest ∧ ∀ tail, string (used ++ tail) = .ok (found, tail) := by
  unfold string at h
  split at h
  · rename_i parts behind hparts
    obtain ⟨rfl, rfl⟩ := Prod.mk.inj (Except.ok.inj h)
    obtain ⟨used, rfl, hread⟩ := pieces_append hparts
    exact ⟨used, rfl, fun tail => by rw [string, hread]⟩
  · exact absurd h nofun

end PageScript.Datum.Json
