import PageScript.Proofs.CodeUnits
import PageScript.Proofs.StepArguments
import PageScript.Proofs.SuiteLayout

namespace PageScript

theorem forall₂_iff_of_iff {α β : Type} {R S : α → β → Prop} {items : List α} {others : List β}
    (h : ∀ a ∈ items, ∀ b ∈ others, (R a b ↔ S a b)) :
    List.Forall₂ R items others ↔ List.Forall₂ S items others := by
  induction items generalizing others with
  | nil => cases others <;> simp
  | cons a items ih =>
      cases others with
      | nil => simp
      | cons b others =>
          rw [List.forall₂_cons, List.forall₂_cons, h a List.mem_cons_self b List.mem_cons_self,
            ih fun a ha b hb => h a (List.mem_cons_of_mem _ ha) b (List.mem_cons_of_mem _ hb)]

/-- Two steps that do the same as far as `view` shows their texts.  A pause shows only its
number. -/
structure Step.Agrees (view : Text → Text) (step other : Step) : Prop where
  action : step.action = other.action
  pause : step.pause? = other.pause?
  target : step.pause? = none → view step.target = view other.target
  data : step.needsData = true → step.data?.map view = other.data?.map view

namespace Step

instance (view : Text → Text) (step other : Step) : Decidable (step.Agrees view other) :=
  decidable_of_iff (step.action = other.action ∧ step.pause? = other.pause? ∧
      (step.pause? = none → view step.target = view other.target) ∧
      (step.needsData = true → step.data?.map view = other.data?.map view))
    ⟨fun ⟨action, pause, target, data⟩ => ⟨action, pause, target, data⟩,
      fun ⟨action, pause, target, data⟩ => ⟨action, pause, target, data⟩⟩

/-- A step in whose texts no pair of surrogates stands. -/
structure IsUnpaired (step : Step) : Prop where
  target : Text.IsUnpaired step.target
  data : ∀ data ∈ step.data?, Text.IsUnpaired data

instance (step : Step) : Decidable step.IsUnpaired :=
  decidable_of_iff (Text.IsUnpaired step.target ∧ ∀ data ∈ step.data?, Text.IsUnpaired data)
    ⟨fun ⟨target, data⟩ => ⟨target, data⟩, fun ⟨target, data⟩ => ⟨target, data⟩⟩

theorem IsUnpaired.map_joined {step : Step} (hstep : step.IsUnpaired) :
    step.data?.map Text.joined = step.data? := by
  cases hdata : step.data? with
  | none => rfl
  | some data => rw [Option.map_some, Text.joined_of_isUnpaired (hstep.data data hdata)]

theorem agrees_iff_of_isUnpaired {step other : Step} (hstep : step.IsUnpaired)
    (hother : other.IsUnpaired) : step.Agrees Text.joined other ↔ step.Agrees id other := by
  have htarget := Text.joined_of_isUnpaired hstep.target
  have htargets := Text.joined_of_isUnpaired hother.target
  constructor
  · rintro ⟨haction, hpause, hsame, hdata⟩
    rw [htarget, htargets] at hsame
    rw [hstep.map_joined, hother.map_joined] at hdata
    exact ⟨haction, hpause, hsame, by simpa using hdata⟩
  · rintro ⟨haction, hpause, hsame, hdata⟩
    rw [Option.map_id] at hdata
    refine ⟨haction, hpause, ?_, ?_⟩
    · rwa [htarget, htargets]
    · rwa [hstep.map_joined, hother.map_joined]

theorem forall₂_agrees_iff {steps others : List Step}
    (h : ∀ step ∈ steps ++ others, step.IsUnpaired) :
    List.Forall₂ (Agrees Text.joined) steps others ↔ List.Forall₂ (Agrees id) steps others := by
  rw [List.forall_mem_append] at h
  obtain ⟨hsteps, hothers⟩ := h
  exact forall₂_iff_of_iff fun step hstep other hother =>
    agrees_iff_of_isUnpaired (hsteps step hstep) (hothers other hother)

theorem agrees_of_pause {step other : Step} {milliseconds : Nat} (view : Text → Text)
    (hpause : step.pause? = some milliseconds) (hother : other.pause? = some milliseconds) :
    step.Agrees view other := by
  have haction := (pause?_eq_some_iff.mp hpause).1
  refine ⟨haction.trans (pause?_eq_some_iff.mp hother).1.symm, hpause.trans hother.symm, ?_, ?_⟩
  · intro hnone
    cases hnone.symm.trans hpause
  · intro hneeds
    rw [needsData, haction] at hneeds
    exact absurd hneeds (by decide)

end Step

namespace Suite

/-- The pieces of a code without what its literals say. -/
def shape (code : Text) : List Piece := (Piece.read code).map fun
  | .literal _ => .literal []
  | piece => piece

theorem shape_append {s : Text} (hs : ReadsAlone s) (t : Text) :
    shape (s ++ t) = shape s ++ shape t := by
  rw [shape, hs, List.map_append]
  rfl

theorem shape_codeLiteral (s : Text) : shape (Text.codeLiteral s) = [.literal []] := by
  rw [shape, Piece.read_codeLiteral]
  rfl

def callOpening : Action → Text
  | .goto => "    page.goto("
  | .expect => "    expect(page.locator("
  | .fill | .click | .wait | .type | .select | .hover => "    page.locator("

/-- The code of a call behind its target, up to the data if there is any. -/
def callClosing : Action → Text
  | .goto => ")"
  | .expect => ")).to_be_visible()"
  | .click => ").click()"
  | .hover => ").hover()"
  | .wait => ").wait_for()"
  | .fill => ").fill("
  | .type => ").press_sequentially("
  | .select => ").select_option("

theorem stepLine_of_pause {style : Style} {step : Step} {milliseconds : Nat}
    (hpause : step.pause? = some milliseconds) :
    stepLine style step = "    page.wait_for_timeout(" ++ toString milliseconds ++ ")" := by
  rcases Call.ofStep_cases style step (.literal (step.data?.getD "")) with
    ⟨n, hn, hcall⟩ | ⟨hnone, -⟩
  · obtain rfl := Option.some.inj (hn.symm.trans hpause)
    rw [stepLine, hcall]
    rfl
  · cases hnone.symm.trans hpause

theorem stepLine_of_pause?_eq_none {step : Step} (hpause : step.pause? = none) :
    stepLine .locator step =
      callOpening step.action ++ Text.codeLiteral step.target ++ callClosing step.action ++
        if step.needsData then Text.codeLiteral (step.data?.getD "") ++ ")" else [] := by
  unfold stepLine Call.ofStep Step.needsData
  unfold Step.pause? at hpause
  cases haction : step.action with
  | wait =>
      have hdigits : step.targetDigits? = none := by simpa [haction] using hpause
      simp only [hdigits, Call.onElement, Call.code, Locator.ofTarget, Locator.code,
        List.append_assoc]
      rfl
  | goto | fill | click | expect | type | select | hover =>
      simp only [Call.onElement, Call.code, Locator.ofTarget, Locator.code, Argument.code,
        List.append_assoc]
      rfl

theorem stepTexts_of_pause?_eq_none {step : Step} (hpause : step.pause? = none) :
    stepTexts .locator step =
      step.target :: if step.needsData then step.data?.toList else [] := by
  rw [stepTexts_locator, if_neg (Step.pause?_eq_none_iff.mp hpause)]
  unfold Step.needsData
  cases step.action <;> rfl

theorem stepTexts_of_pause {step : Step} {milliseconds : Nat}
    (hpause : step.pause? = some milliseconds) (style : Style) : stepTexts style step = [] := by
  obtain ⟨haction, digits, hdigits, -⟩ := Step.pause?_eq_some_iff.mp hpause
  simp [stepTexts, Step.seeksElement, Step.needsData, haction, hdigits, Action.needsData]

theorem shape_stepLine {step : Step} (hpause : step.pause? = none) :
    shape (stepLine .locator step) =
      shape (callOpening step.action) ++ [Piece.literal []] ++ shape (callClosing step.action) ++
        if step.needsData then Piece.literal [] :: shape ")" else [] := by
  have hopening : ReadsAlone (callOpening step.action) := by
    cases step.action <;> exact fun _ => rfl
  have hclosing : ReadsAlone (callClosing step.action) := by
    cases step.action <;> exact fun _ => rfl
  have hliteral := readsAlone_codeLiteral step.target
  rw [stepLine_of_pause?_eq_none hpause, shape_append ((hopening.append hliteral).append hclosing),
    shape_append (hopening.append hliteral), shape_append hopening, shape_codeLiteral]
  congr 1
  split
  · rw [shape_append (readsAlone_codeLiteral _), shape_codeLiteral]
    rfl
  · rfl

theorem action_eq_of_shape_eq {step other : Step} (hstep : step.pause? = none)
    (hother : other.pause? = none)
    (hshape : shape (stepLine .locator step) = shape (stepLine .locator other)) :
    step.action = other.action := by
  -- What is left of the two lines are their actions, and these are eight.
  have hdistinct : ∀ a ∈ Action.all, ∀ b ∈ Action.all,
      shape (callOpening a) ++ [Piece.literal []] ++ shape (callClosing a) ++
          (if a.needsData then Piece.literal [] :: shape ")" else []) =
        shape (callOpening b) ++ [Piece.literal []] ++ shape (callClosing b) ++
          (if b.needsData then Piece.literal [] :: shape ")" else []) → a = b := by
    decide +kernel
  rw [shape_stepLine hstep, shape_stepLine hother] at hshape
  exact hdistinct _ (Action.mem_all _) _ (Action.mem_all _) hshape

theorem exists_data_of_needsData {step : Step} (hstep : step.lacksData = false)
    (hneeds : step.needsData = true) : ∃ data, step.data? = some data := by
  rw [Step.lacksData, hneeds, Bool.true_and] at hstep
  exact Option.isSome_iff_exists.mp (by simpa using hstep)

theorem map_codeLiteral_eq_iff {texts others : List Text} :
    texts.map Text.codeLiteral = others.map Text.codeLiteral ↔
      texts.map Text.joined = others.map Text.joined := by
  induction texts generalizing others with
  | nil => cases others <;> simp
  | cons text texts ih =>
      cases others with
      | nil => simp
      | cons other others => simp only [List.map_cons, List.cons.injEq, Text.codeLiteral_eq_iff, ih]

theorem agrees_of_stepTexts_eq {step other : Step} (hstep : step.lacksData = false)
    (hother : other.lacksData = false) (hpause : step.pause? = none)
    (hnone : other.pause? = none) (haction : step.action = other.action)
    (htexts : (stepTexts .locator step).map Text.joined =
      (stepTexts .locator other).map Text.joined) :
    step.Agrees Text.joined other := by
  rw [stepTexts_of_pause?_eq_none hpause, stepTexts_of_pause?_eq_none hnone, List.map_cons,
    List.map_cons, List.cons.injEq] at htexts
  refine ⟨haction, hpause.trans hnone.symm, fun _ => htexts.1, ?_⟩
  intro hneeds
  have hneedsOther : other.needsData = true := by
    rwa [Step.needsData, ← haction]
  obtain ⟨data, hdata⟩ := exists_data_of_needsData hstep hneeds
  obtain ⟨datum, hdatum⟩ := exists_data_of_needsData hother hneedsOther
  simpa [hneeds, hneedsOther, hdata, hdatum] using htexts.2

/-- The line of a step tells what it does: its action and the number of a pause, and its target
and its data as far as literals tell them. -/
theorem agrees_of_stepLine_eq {step other : Step} (hstep : step.lacksData = false)
    (hother : other.lacksData = false) (h : stepLine .locator step = stepLine .locator other) :
    step.Agrees Text.joined other := by
  have htexts := congrArg literals h
  rw [literals_stepLine .locator hstep, literals_stepLine .locator hother, map_codeLiteral_eq_iff]
    at htexts
  cases hpause : step.pause? with
  | some milliseconds =>
      cases hpauses : other.pause? with
      | some others =>
          rw [stepLine_of_pause hpause, stepLine_of_pause hpauses] at h
          have hnumber := Name.number_injective
            (List.append_cancel_left (List.append_cancel_right h))
          exact Step.agrees_of_pause _ hpause (hpauses.trans (congrArg some hnumber.symm))
      | none =>
          -- a pause has no literal, and every other call has one
          rw [stepTexts_of_pause hpause, stepTexts_of_pause?_eq_none hpauses] at htexts
          cases htexts
  | none =>
      cases hpauses : other.pause? with
      | some others =>
          rw [stepTexts_of_pause hpauses, stepTexts_of_pause?_eq_none hpause] at htexts
          cases htexts
      | none =>
          have haction := action_eq_of_shape_eq hpause hpauses (congrArg shape h)
          exact agrees_of_stepTexts_eq hstep hother hpause hpauses haction htexts

theorem stepLine_eq_of_agrees {step other : Step} (hstep : step.lacksData = false)
    (hother : other.lacksData = false) (h : step.Agrees Text.joined other) :
    stepLine .locator step = stepLine .locator other := by
  cases hpause : step.pause? with
  | some milliseconds =>
      rw [stepLine_of_pause hpause, stepLine_of_pause (h.pause.symm.trans hpause)]
  | none =>
      have hneedsOther : other.needsData = step.needsData := by
        rw [Step.needsData, Step.needsData, h.action]
      have htarget := Text.codeLiteral_eq_iff.mpr (h.target hpause)
      rw [stepLine_of_pause?_eq_none hpause,
        stepLine_of_pause?_eq_none (h.pause.symm.trans hpause), h.action, htarget, hneedsOther]
      cases hneeds : step.needsData with
      | false => rfl
      | true =>
          obtain ⟨data, hdata⟩ := exists_data_of_needsData hstep hneeds
          obtain ⟨datum, hdatum⟩ := exists_data_of_needsData hother (hneedsOther.trans hneeds)
          have hjoined := h.data hneeds
          rw [hdata, hdatum] at hjoined
          have hliteral := Text.codeLiteral_eq_iff.mpr (Option.some.inj hjoined)
          rw [hdata, hdatum, Option.getD_some, Option.getD_some, hliteral]

theorem stepLine_ne_pass (step : Step) : stepLine .locator step ≠ "    pass" := by
  intro h
  cases hpause : step.pause? with
  | some milliseconds =>
      rw [stepLine_of_pause hpause] at h
      simp [Text.ofString] at h
  | none =>
      rw [stepLine_of_pause?_eq_none hpause, List.append_assoc, List.append_assoc] at h
      cases haction : step.action <;> simp [haction, callOpening, Text.ofString] at h

theorem map_stepLine_eq_iff {steps others : List Step}
    (hsteps : ∀ step ∈ steps, step.lacksData = false)
    (hothers : ∀ other ∈ others, other.lacksData = false) :
    steps.map (stepLine .locator) = others.map (stepLine .locator) ↔
      List.Forall₂ (Step.Agrees Text.joined) steps others := by
  rw [← List.forall₂_eq_eq_eq, List.forall₂_map_left_iff, List.forall₂_map_right_iff]
  exact forall₂_iff_of_iff fun step hstep other hother =>
    ⟨agrees_of_stepLine_eq (hsteps step hstep) (hothers other hother),
      stepLine_eq_of_agrees (hsteps step hstep) (hothers other hother)⟩

theorem stepLines_eq_iff {steps others : List Step}
    (hsteps : ∀ step ∈ steps, step.lacksData = false)
    (hothers : ∀ other ∈ others, other.lacksData = false) :
    stepLines .locator steps = stepLines .locator others ↔
      List.Forall₂ (Step.Agrees Text.joined) steps others := by
  have hpass (rest : List Step) (step : Step) :
      (step :: rest).map (stepLine .locator) ≠ [Line.indentation 4 ++ "pass"] := fun h =>
    stepLine_ne_pass step (List.cons.inj h).1
  cases steps with
  | nil =>
      cases others with
      | nil => simp
      | cons other others =>
          refine iff_of_false (fun h => hpass others other h.symm) nofun
  | cons step steps =>
      cases others with
      | nil => exact iff_of_false (hpass steps step) nofun
      | cons other others => exact map_stepLine_eq_iff hsteps hothers

theorem functionCode_plain (scenario : Scenario) (options : Options) (outcomes : List Outcome) :
    functionCode
        (ofScenario scenario { options with pageObjects := false } outcomes).artifact.testSource =
      stepLines options.style scenario.steps :=
  Option.some.inj (expanded?_artifact scenario { options with pageObjects := false } outcomes)

/-- The code of a test without page objects tells what its steps do: how many there are, and
of each its action, its target or the number of its pause, and the data that it needs.  What
it does not tell is whether a character or a pair of surrogates stands in a text. -/
theorem compile_plain_code_eq_iff {scenario other : Scenario} {options otherOptions : Options}
    {outcomes otherOutcomes : List Outcome} {artifact otherArtifact : Artifact}
    (hartifact : compile scenario { options with pageObjects := false, style := .locator }
      outcomes = .ok artifact)
    (hother : compile other { otherOptions with pageObjects := false, style := .locator }
      otherOutcomes = .ok otherArtifact) :
    (functionCode artifact.testSource = functionCode otherArtifact.testSource ↔
      List.Forall₂ (Step.Agrees Text.joined) scenario.steps other.steps) ∧
    ((∀ step ∈ scenario.steps ++ other.steps, step.IsUnpaired) →
      (functionCode artifact.testSource = functionCode otherArtifact.testSource ↔
        List.Forall₂ (Step.Agrees id) scenario.steps other.steps)) := by
  have hsteps := lacksData_eq_false_of_compile hartifact
  have hothers := lacksData_eq_false_of_compile hother
  obtain ⟨-, rfl⟩ := compile_eq_ok_iff.mp hartifact
  obtain ⟨-, rfl⟩ := compile_eq_ok_iff.mp hother
  have hcode := functionCode_plain scenario { options with style := .locator } outcomes
  have hcodes := functionCode_plain other { otherOptions with style := .locator } otherOutcomes
  have hiff := stepLines_eq_iff hsteps hothers
  rw [← hcode, ← hcodes] at hiff
  exact ⟨hiff, fun hunpaired => hiff.trans (Step.forall₂_agrees_iff hunpaired)⟩

/-- The scenario with the number of its pause written in another way. -/
def paddedScenario : Scenario where
  id := "s-2"
  name := "padded"
  description? := none
  steps :=
    [⟨.goto, "/search", none, ""⟩,
     ⟨.type, "#query", some "first", ""⟩,
     ⟨.click, "#go", none, "submit"⟩,
     ⟨.wait, " 0250", none, ""⟩,
     ⟨.fill, "#query", some "second", ""⟩,
     ⟨.click, "#go", some "unused", ""⟩]
  tags := []

theorem compile_searchScenario_code_eq :
    ∃ artifact otherArtifact,
      compile searchScenario { Options.standard with pageObjects := false, style := .locator } [] =
        .ok artifact ∧
      compile paddedScenario { Options.standard with pageObjects := false, style := .locator } [] =
        .ok otherArtifact ∧
      functionCode artifact.testSource = functionCode otherArtifact.testSource := by
  have hok : compile searchScenario
      { Options.standard with pageObjects := false, style := .locator } [] = .ok
        (ofScenario searchScenario
          { Options.standard with pageObjects := false, style := .locator } []).artifact := by rfl
  have hother : compile paddedScenario
      { Options.standard with pageObjects := false, style := .locator } [] = .ok
        (ofScenario paddedScenario
          { Options.standard with pageObjects := false, style := .locator } []).artifact := by rfl
  obtain ⟨-, hunpaired⟩ := compile_plain_code_eq_iff hok hother
  exact ⟨_, _, hok, hother, (hunpaired (by decide)).mpr (by decide)⟩

/-- Scenarios that go to an address with a face in it, and to one with the two surrogates of
a face. -/
def faceScenarios : Scenario × Scenario :=
  (⟨"s-1", "a", none, [⟨.goto, "😀", none, ""⟩], []⟩,
   ⟨"s-2", "b", none, [⟨.goto, [.surrogate 0x3D, .surrogate 0x600], none, ""⟩], []⟩)

theorem compile_faceScenarios_code_eq :
    ∃ artifact otherArtifact,
      compile faceScenarios.1 { Options.standard with pageObjects := false } [] = .ok artifact ∧
      compile faceScenarios.2 { Options.standard with pageObjects := false } [] =
        .ok otherArtifact ∧
      functionCode artifact.testSource = functionCode otherArtifact.testSource ∧
      faceScenarios.1.steps.map Step.target ≠ faceScenarios.2.steps.map Step.target := by
  refine ⟨_, _, by rfl, by rfl, ?_, by decide⟩
  rw [functionCode_plain, functionCode_plain]
  decide +kernel

end Suite

end PageScript
