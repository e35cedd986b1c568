import PageScript.Proofs.SharedUses

namespace PageScript

/-- A step that is done on an element: it neither goes to an address nor waits for a number of
milliseconds. -/
def Step.IsOnElement (step : Step) : Prop := step.action ≠ .goto ∧ ¬ step.IsPause

instance : DecidablePred Step.IsOnElement := fun _ => inferInstanceAs (Decidable (_ ∧ _))

theorem Step.isOnElement_iff {step : Step} : step.IsOnElement ↔ step.seeksElement = true := by
  rw [IsOnElement, ← not_or, ← seeksElement_eq_false_iff, Bool.not_eq_false]

/-- Two steps have one target, and do the same with it or both write into it. -/
def Step.SameUse (step other : Step) : Prop :=
  step.target = other.target ∧
    (step.action = other.action ∨ step.action ∈ [.fill, .type] ∧ other.action ∈ [.fill, .type])

instance (step : Step) : DecidablePred step.SameUse := fun _ => inferInstanceAs (Decidable (_ ∧ _))

namespace Suite

theorem sameUse_iff {step other : Step} :
    step.SameUse other ↔ Use.ofStep step = Use.ofStep other := by
  have hfamily : (step.action = other.action ∨
      step.action ∈ [Action.fill, .type] ∧ other.action ∈ [Action.fill, .type]) ↔
        step.action.family = other.action.family := by
    cases step.action <;> cases other.action <;> decide
  rw [Step.SameUse, hfamily, Use.ofStep, Use.ofStep, Use.mk.injEq]

def elementSteps (steps : List Step) : List Step := steps.filter fun step => step.IsOnElement

/-- The steps on elements that use the element of the given step as it does, in order. -/
def stepsLike (steps : List Step) (step : Step) : List Step :=
  (elementSteps steps).filter fun other => other.SameUse step

/-- The steps that are the first to use an element in their way. -/
def firstSteps (steps : List Step) : List Step :=
  (steps.zipIdx.filter fun (item : Step × Nat) =>
    ∀ earlier ∈ steps.take item.2, ¬ earlier.SameUse item.1).map Prod.fst

/-- The first of the steps that use an element in one way, wherever there is more than one. -/
def sharedSteps (steps : List Step) : List Step :=
  (firstSteps (elementSteps steps)).filter fun first => 2 ≤ (stepsLike steps first).length

theorem map_ofStep_elementSteps (steps : List Step) :
    (elementSteps steps).map Use.ofStep = usesOf steps := by
  refine congrArg (List.map Use.ofStep) (List.filter_congr fun step _ => ?_)
  simp [Step.isOnElement_iff]

theorem length_stepsLike (steps : List Step) (step : Step) :
    (stepsLike steps step).length = (usesOf steps).count (.ofStep step) := by
  rw [stepsLike, ← List.countP_eq_length_filter, ← map_ofStep_elementSteps, List.count_eq_countP,
    List.countP_map]
  refine List.countP_congr fun other _ => ?_
  simp [sameUse_iff]

theorem map_action_stepsLike (steps : List Step) (step : Step) :
    (stepsLike steps step).map Step.action = actionsOf steps (.ofStep step) := by
  rw [stepsLike, elementSteps, List.filter_filter, actionsOf]
  refine congrArg (List.map Step.action) (List.filter_congr fun other _ => ?_)
  simp [sameUse_iff, Step.isOnElement_iff, Bool.and_comm, Bool.beq_eq_decide_eq]

theorem firstSteps_concat (steps : List Step) (step : Step) :
    firstSteps (steps ++ [step]) =
      firstSteps steps ++ if ∀ earlier ∈ steps, ¬ earlier.SameUse step then [step] else [] := by
  have hsame : (steps.zipIdx.filter fun (item : Step × Nat) =>
      ∀ earlier ∈ (steps ++ [step]).take item.2, ¬ earlier.SameUse item.1) =
        steps.zipIdx.filter fun (item : Step × Nat) =>
          ∀ earlier ∈ steps.take item.2, ¬ earlier.SameUse item.1 := by
    refine List.filter_congr fun item hitem => ?_
    have hindex : item.2 ≤ steps.length := by
      simpa using Nat.le_of_lt (List.snd_lt_of_mem_zipIdx hitem)
    rw [List.take_append_of_le_length hindex]
  rw [firstSteps, List.zipIdx_append, List.filter_append, hsame, List.map_append, firstSteps]
  refine congrArg ((steps.zipIdx.filter _).map Prod.fst ++ ·) ?_
  by_cases hfirst : ∀ earlier ∈ steps, ¬ earlier.SameUse step
  · rw [if_pos hfirst, List.zipIdx_singleton, List.filter_cons_of_pos (by simpa using hfirst)]
    rfl
  · rw [if_neg hfirst, List.zipIdx_singleton, List.filter_cons_of_neg (by simpa using hfirst)]
    rfl

theorem map_ofStep_firstSteps (steps : List Step) :
    (firstSteps steps).map Use.ofStep = (steps.map Use.ofStep).eraseDups := by
  induction steps using List.reverseRecOn with
  | nil => rfl
  | append_singleton steps step ih =>
      have hfirst : (∀ earlier ∈ steps, ¬ earlier.SameUse step) ↔
          Use.ofStep step ∉ steps.map Use.ofStep := by
        simp [sameUse_iff]
      rw [firstSteps_concat, List.map_append, ih, List.map_append, List.eraseDups_append,
        List.map_singleton]
      by_cases hmem : Use.ofStep step ∈ steps.map Use.ofStep
      · have hseen : [Use.ofStep step].removeAll (steps.map Use.ofStep) = [] := by
          simp only [List.removeAll, List.elem_eq_mem, hmem, decide_true, Bool.not_true,
            Bool.false_eq_true, not_false_eq_true, List.filter_cons_of_neg, List.filter_nil]
        rw [if_neg fun h => hfirst.mp h hmem, hseen]
        rfl
      · have hnew : [Use.ofStep step].removeAll (steps.map Use.ofStep) = [Use.ofStep step] := by
          simp only [List.removeAll, List.elem_eq_mem, hmem, decide_false, Bool.not_false,
            List.filter_cons_of_pos, List.filter_nil]
        rw [if_pos (hfirst.mpr hmem), hnew]
        rfl

theorem map_ofStep_sharedSteps (steps : List Step) :
    (sharedSteps steps).map Use.ofStep = sharedUses steps := by
  rw [sharedUses, ← map_ofStep_elementSteps, ← map_ofStep_firstSteps, List.filter_map,
    map_ofStep_elementSteps]
  refine congrArg (List.map Use.ofStep) (List.filter_congr fun first _ => ?_)
  rw [length_stepsLike]
  rfl

/-- The steps that use an element in one way begin with the first of them. -/
theorem head?_filter_of_mem_firstSteps {steps : List Step} {first : Step}
    (hfirst : first ∈ firstSteps steps) :
    (steps.filter fun other => other.SameUse first).head? = some first := by
  obtain ⟨⟨step, index⟩, hmem, rfl⟩ := List.mem_map.mp hfirst
  obtain ⟨hzip, hnew⟩ := List.mem_filter.mp hmem
  obtain ⟨hindex, hget⟩ : ∃ h : index < steps.length, steps[index] = step :=
    List.getElem?_eq_some_iff.mp (List.mem_zipIdx_iff_getElem?.mp hzip)
  have hsplit : steps = steps.take index ++ step :: steps.drop (index + 1) := by
    rw [← hget, ← List.drop_eq_getElem_cons hindex, List.take_append_drop]
  have hearlier : (steps.take index).filter (fun other => other.SameUse step) = [] := by
    simpa using hnew
  have hself : decide (step.SameUse step) = true := decide_eq_true (sameUse_iff.mpr rfl)
  change (steps.filter fun other => other.SameUse step).head? = some step
  rw [hsplit, List.filter_append, hearlier, List.nil_append, List.filter_cons, if_pos hself]
  rfl

theorem head?_actionsOf_of_mem_sharedSteps {steps : List Step} {first : Step}
    (hfirst : first ∈ sharedSteps steps) :
    (actionsOf steps (.ofStep first)).head? = some first.action := by
  have hhead : (stepsLike steps first).head? = some first :=
    head?_filter_of_mem_firstSteps (List.mem_of_mem_filter hfirst)
  rw [← map_action_stepsLike, List.head?_map, hhead]
  rfl

/-- What is listed under a use is what is found for the first of its steps. -/
theorem lookup_zip_sharedUses {α : Type} (steps : List Step) (names : List α) (step : Step) :
    ((sharedUses steps).zip names).lookup (.ofStep step) =
      (((sharedSteps steps).zip names).find? fun item => item.1.SameUse step).map Prod.snd := by
  rw [← map_ofStep_sharedSteps]
  induction sharedSteps steps generalizing names with
  | nil => rfl
  | cons first firsts ih =>
      cases names with
      | nil => rfl
      | cons name names =>
          rw [List.map_cons, List.zip_cons_cons, List.zip_cons_cons, List.lookup_cons,
            List.find?_cons]
          by_cases hsame : first.SameUse step
          · have huse : (Use.ofStep step == Use.ofStep first) = true :=
              beq_iff_eq.mpr (sameUse_iff.mp hsame).symm
            simp [hsame, huse]
          · have huse : (Use.ofStep step == Use.ofStep first) = false :=
              beq_eq_false_iff_ne.mpr fun h => hsame (sameUse_iff.mpr h.symm)
            simp [hsame, huse, ih]

end Suite

end PageScript
