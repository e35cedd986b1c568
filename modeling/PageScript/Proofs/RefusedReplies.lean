import PageScript.CommandLine.Problem
import PageScript.Proofs.ReadingLimits
import PageScript.Proofs.TrimmedTexts

namespace PageScript

theorem Text.reverse_dropWhile_isPrefix (p : CodePoint → Bool) (s : Text) :
    (s.reverse.dropWhile p).reverse <+: s := by
  have h : (s.reverse.dropWhile p).reverse <+: s.reverse.reverse :=
    List.reverse_prefix.mpr (List.dropWhile_suffix p)
  rwa [List.reverse_reverse] at h

theorem Text.trim_isInfix (s : Text) : Text.trim s <:+: s := by
  obtain ⟨before, after, -, -, hs⟩ := Text.exists_eq_trim s
  exact ⟨before, after, hs.symm⟩

theorem Text.isBlank_of_isDigit {c : CodePoint} (h : c.isDigit = true) :
    Text.isBlank c = false := by
  cases c with
  | surrogate index => exact absurd h nofun
  | char digit =>
      have hbounds : 48 ≤ (CodePoint.char digit).toNat ∧ (CodePoint.char digit).toNat ≤ 57 := by
        simpa [CodePoint.toNat, CodePoint.isDigit, Char.isDigit, UInt32.le_iff_toNat_le] using h
      rw [Bool.eq_false_iff]
      intro hblank
      simp only [Text.isBlank, Bool.or_eq_true, Bool.and_eq_true, decide_eq_true_eq,
        beq_iff_eq] at hblank
      omega

theorem Text.trim_eq_self {s : Text} (h : ∀ c ∈ s, Text.isBlank c = false) : Text.trim s = s := by
  have htrimmed : Text.IsTrimmed s :=
    ⟨fun c hc => h c (List.mem_of_mem_head? hc), fun c hc => h c (List.mem_of_mem_getLast? hc)⟩
  exact htrimmed.trim_eq

namespace Reply

open Datum.Json

variable {depth : Nat} {reply runId content inner : Text} {error : Error}

theorem dropOpeningFence_suffix (s : Text) : dropOpeningFence s <:+ s := by
  unfold dropOpeningFence
  split
  · exact (List.drop_suffix 1 _).trans (List.dropWhile_suffix _)
  · exact List.suffix_refl s

theorem dropClosingFence_isPrefix (s : Text) : dropClosingFence s <+: s := by
  unfold dropClosingFence
  split
  · exact List.take_prefix _ s
  · exact List.prefix_refl s

theorem unfenced_isInfix (reply : Text) : unfenced reply <:+: reply := by
  apply (Text.trim_isInfix _).trans
  apply (dropClosingFence_isPrefix _).isInfix.trans
  exact (dropOpeningFence_suffix _).isInfix.trans (Text.trim_isInfix reply)

theorem bracketed?_isInfix (h : bracketed? content = some inner) : inner <:+: content := by
  unfold bracketed? at h
  split at h
  · exact absurd h nofun
  · rename_i c rest hopened
    have hopened : c :: rest <:+ content := hopened ▸ List.dropWhile_suffix _
    dsimp only at h
    split at h
    · exact absurd h nofun
    · obtain rfl := Option.some.inj h
      exact (Text.reverse_dropWhile_isPrefix _ _).isInfix.trans hopened.isInfix

theorem readJson?_eq_error (h : readJson? depth content = .error error) :
    (∃ count, error = .tooManyDigits count ∧
      PassesLimit depth content (.tooManyDigits count)) ∨
    error = .tooDeep ∧ PassesLimit depth content .tooDeep := by
  unfold readJson? at h
  split at h
  · exact absurd h nofun
  · exact absurd h nofun
  · rename_i count hread
    obtain rfl := Except.error.inj h
    exact Or.inl ⟨count, rfl, (passesLimit_of_read hread).resolve_left nofun⟩
  · rename_i hread
    obtain rfl := Except.error.inj h
    exact Or.inr ⟨rfl, (passesLimit_of_read hread).resolve_left nofun⟩

/-- The reader refuses what a reply holds: all of it, or, where that is no JSON, what
stands between brackets in it. -/
def HitsLimit (depth : Nat) (reply : Text) (error : Error) : Prop :=
  readJson? depth (unfenced reply) = .error error ∨
    readJson? depth (unfenced reply) = .ok none ∧
      ∃ inner, bracketed? (unfenced reply) = some inner ∧ readJson? depth inner = .error error

/-- A text of the reply that reading refuses with an error. -/
theorem HitsLimit.exists_refused (h : HitsLimit depth reply error) :
    ∃ part, part <:+: reply ∧ readJson? depth part = .error error := by
  rcases h with hwhole | ⟨-, inner, hinner, hpart⟩
  · exact ⟨unfenced reply, unfenced_isInfix reply, hwhole⟩
  · exact ⟨inner, (bracketed?_isInfix hinner).trans (unfenced_isInfix reply), hpart⟩

theorem json_eq_error_iff :
    json depth reply = .error error ↔
      HitsLimit depth reply error ∨
        error = .noJson (unfenced reply) ∧ readJson? depth (unfenced reply) = .ok none ∧
          ∀ inner, bracketed? (unfenced reply) = some inner → readJson? depth inner = .ok none := by
  unfold json HitsLimit
  dsimp only
  cases hwhole : readJson? depth (unfenced reply) with
  | error problem => simp [Bind.bind, Except.bind]
  | ok data? =>
      cases data? with
      | some data => simp [Bind.bind, Except.bind, Pure.pure, Except.pure]
      | none =>
          cases hinner : bracketed? (unfenced reply) with
          | none => simp [Bind.bind, Except.bind, eq_comm]
          | some inner =>
              cases hpart : readJson? depth inner with
              | error problem => simp [Bind.bind, Except.bind, hpart]
              | ok found? =>
                  cases found? with
                  | some data => simp [Bind.bind, Except.bind, Pure.pure, Except.pure, hpart]
                  | none => simp [Bind.bind, Except.bind, hpart, eq_comm]

theorem items_ne_nil {data : Datum} {found : List Datum} (h : items data = .ok found) :
    found ≠ [] := by
  unfold items at h
  split at h
  · obtain rfl := Except.ok.inj h
    exact List.cons_ne_nil _ _
  · exact absurd h nofun
  · rename_i listed hlisted
    obtain rfl := Except.ok.inj h
    exact hlisted
  · exact absurd h nofun

theorem scenarios_ne_nil {found : List Scenario} (h : scenarios depth reply runId = .ok found) :
    found ≠ [] := by
  obtain ⟨data, -, hdata⟩ := bind_eq_ok h
  obtain ⟨listed, hlisted, hread⟩ := bind_eq_ok hdata
  cases listed with
  | nil => exact absurd rfl (items_ne_nil hlisted)
  | cons item rest =>
      rw [scenariosFrom] at hread
      split at hread
      · exact absurd hread (by simp)
      · obtain ⟨more, -, hdone⟩ := bind_eq_ok hread
        obtain rfl := Except.ok.inj hdone
        exact List.cons_ne_nil _ _

open CommandLine Problem

theorem toldReply_of_items {data : Datum} (h : items data = .error error) :
    toldReply error = .kind "SchemaValidationError" error.message := by
  unfold items at h
  split at h
  · exact absurd h nofun
  · obtain rfl := Except.error.inj h
    rfl
  · exact absurd h nofun
  · obtain rfl := Except.error.inj h
    rfl

theorem toldReply_of_scenariosFrom {n : Nat} {listed : List Datum}
    (h : scenariosFrom runId n listed = .error error) :
    toldReply error = .kind "SchemaValidationError" error.message := by
  induction listed generalizing n with
  | nil => exact absurd h nofun
  | cons item rest ih =>
      rw [scenariosFrom] at h
      split at h
      · obtain rfl := Except.error.inj h
        rfl
      · rcases bind_eq_error h with hrest | ⟨more, -, hdone⟩
        · exact ih hrest
        · exact absurd hdone nofun

theorem HitsLimit.scenarios_eq (h : HitsLimit depth reply error) (runId : Text) :
    scenarios depth reply runId = .error error := by
  rw [scenarios, json_eq_error_iff.mpr (Or.inl h)]
  rfl

/-- What ends the reading of a reply that no one provides for: a limit was hit. -/
theorem HitsLimit.passes (h : HitsLimit depth reply error) :
    (∃ failure, toldReply error = .failure failure) ∧
      ((∃ run, run <:+: reply ∧ (∀ c ∈ run, c.isDigit = true) ∧ Text.maxDigits < run.length) ∨
        depth < reply.countP isOpening) := by
  obtain ⟨part, hpart, hrefused⟩ := h.exists_refused
  rcases readJson?_eq_error hrefused with ⟨count, rfl, hpasses⟩ | ⟨rfl, hpasses⟩
  · cases hpasses with
    | digits hrun hdigits hlong =>
        exact ⟨⟨_, rfl⟩, Or.inl ⟨_, hrun.trans hpart, hdigits, hlong⟩⟩
  · cases hpasses with
    | openings hdeep =>
        exact ⟨⟨_, rfl⟩, Or.inr (Nat.lt_of_lt_of_le hdeep hpart.sublist.countP_le)⟩

theorem unfenced_eq_self (h : ∀ c ∈ reply, Text.isBlank c = false ∧ c ≠ CodePoint.ofNat 0x60) :
    unfenced reply = reply := by
  have hfence : ∀ s : Text, fence <:+: s → ¬ s <:+: reply := by
    intro s hfence hs
    have hmem : CodePoint.ofNat 0x60 ∈ reply := (hfence.trans hs).subset (by decide)
    exact (h _ hmem).2 rfl
  have htrim : Text.trim reply = reply := Text.trim_eq_self fun c hc => (h c hc).1
  have hopening : dropOpeningFence reply = reply := by
    refine if_neg fun hprefix => hfence reply ?_ (List.infix_refl reply)
    exact (List.isPrefixOf_iff_prefix.mp hprefix).isInfix
  have hclosing : dropClosingFence reply = reply := by
    refine if_neg fun hsuffix => hfence reply ?_ (List.infix_refl reply)
    exact (List.isSuffixOf_iff_suffix.mp hsuffix).isInfix
  rw [unfenced, htrim, hopening, hclosing, htrim]

/-- Every integer of more than 4300 digits is a reply that hits a limit. -/
theorem hitsLimit_digits (hfirst : reply.head? ≠ some (.char '0'))
    (hdigits : ∀ c ∈ reply, c.isDigit = true) (hlong : Text.maxDigits < reply.length) :
    HitsLimit depth reply (.tooManyDigits reply.length) := by
  obtain ⟨c, rest, rfl⟩ : ∃ c rest, reply = c :: rest :=
    List.exists_cons_of_length_pos (Nat.zero_lt_of_lt hlong)
  have hplain : unfenced (c :: rest) = c :: rest := by
    refine unfenced_eq_self fun d hd => ⟨?_, ne_of_isDigit (hdigits d hd) (by decide)⟩
    exact Text.isBlank_of_isDigit (hdigits d hd)
  have hgap : skipGap (c :: rest) = c :: rest :=
    List.dropWhile_cons_of_neg (by simp [isGap_of_isDigit (hdigits c List.mem_cons_self)])
  have hfirst : c ≠ .char '0' := fun heq => hfirst (congrArg some heq)
  have hread : Datum.Json.read depth (c :: rest) = .error (.tooManyDigits (c :: rest).length) := by
    rw [Datum.Json.read, hgap, value_digits hfirst hdigits hlong]
    rfl
  refine Or.inl ?_
  rw [hplain, readJson?, hread]

/-- So is a list opened more often than lists and maps may stand in each other. -/
theorem hitsLimit_openings {n : Nat} (hn : depth < n) :
    HitsLimit depth (List.replicate n (.char '[')) .tooDeep := by
  have hplain : unfenced (List.replicate n (.char '[')) = List.replicate n (.char '[') := by
    refine unfenced_eq_self fun c hc => ?_
    rw [List.eq_of_mem_replicate hc]
    decide
  have hgap : skipGap (List.replicate n (.char '[')) = List.replicate n (.char '[') := by
    cases n with
    | zero => rfl
    | succ n => rfl
  have hread : Datum.Json.read depth (List.replicate n (.char '[')) = .error .tooDeep := by
    rw [Datum.Json.read, hgap, value_openings _ hn]
    · rfl
    · rw [List.length_replicate]
      omega
  refine Or.inl ?_
  rw [hplain, readJson?, hread]

/-- Reading a reply gives scenarios, at least one, or fails as an error of generation or
of the schema, unless it hits a limit.  Then it fails as no one provides for, and the
limit can be seen in the reply: it holds a run of more than 4300 digits, or more opening
brackets than lists and maps may stand in each other. -/
theorem scenarios_ends (depth : Nat) (reply runId : Text) :
    (∀ found, scenarios depth reply runId = .ok found → found ≠ []) ∧
    (∀ error, scenarios depth reply runId = .error error →
      toldReply error = .kind "GenerationError" error.message ∨
        toldReply error = .kind "SchemaValidationError" error.message ∨
        HitsLimit depth reply error) ∧
    (∀ error, json depth reply = .error error →
      toldReply error = .kind "GenerationError" error.message ∨ HitsLimit depth reply error) ∧
    ∀ error, HitsLimit depth reply error →
      json depth reply = .error error ∧ scenarios depth reply runId = .error error ∧
        (∃ failure, toldReply error = .failure failure) ∧
        ((∃ run, run <:+: reply ∧ (∀ c ∈ run, c.isDigit = true) ∧ 4300 < run.length) ∨
          depth < reply.countP isOpening) := by
  have hjson : ∀ error, json depth reply = .error error →
      toldReply error = .kind "GenerationError" error.message ∨ HitsLimit depth reply error := by
    intro error herror
    rcases json_eq_error_iff.mp herror with hlimit | ⟨rfl, -⟩
    · exact Or.inr hlimit
    · exact Or.inl rfl
  refine ⟨fun found => scenarios_ne_nil, ?_, hjson, ?_⟩
  · intro error herror
    rcases bind_eq_error herror with hread | ⟨data, -, hdata⟩
    · exact (hjson error hread).imp_right Or.inr
    · rcases bind_eq_error hdata with hitems | ⟨listed, -, hlisted⟩
      · exact Or.inr (Or.inl (toldReply_of_items hitems))
      · exact Or.inr (Or.inl (toldReply_of_scenariosFrom hlisted))
  · intro error hlimit
    exact ⟨json_eq_error_iff.mpr (Or.inl hlimit), hlimit.scenarios_eq runId, hlimit.passes⟩

/-- A number of 4301 ones is a reply that fails as no one provides for. -/
theorem scenarios_ones_escapes :
    json maxDepth (List.replicate 4301 (.char '1')) = .error (.tooManyDigits 4301) ∧
      scenarios maxDepth (List.replicate 4301 (.char '1')) "r" = .error (.tooManyDigits 4301) ∧
      ∃ failure, toldReply (.tooManyDigits 4301) = .failure failure := by
  have hlimit : HitsLimit maxDepth (List.replicate 4301 (.char '1')) (.tooManyDigits 4301) := by
    have hdigits : ∀ c ∈ List.replicate 4301 (.char '1'), CodePoint.isDigit c = true := by
      intro c hc
      rw [List.eq_of_mem_replicate hc]
      rfl
    have hlength : (List.replicate 4301 (CodePoint.char '1')).length = 4301 :=
      List.length_replicate
    have hlimit : HitsLimit maxDepth _ _ :=
      hitsLimit_digits (by decide) hdigits (by rw [hlength]; decide)
    rwa [hlength] at hlimit
  exact ⟨json_eq_error_iff.mpr (Or.inl hlimit), hlimit.scenarios_eq "r", hlimit.passes.1⟩

end Reply

end PageScript
