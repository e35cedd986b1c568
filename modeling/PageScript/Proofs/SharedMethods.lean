import Mathlib.Data.List.Induction
import Mathlib.Data.List.Nodup
import PageScript.Proofs.NameCharacters

namespace PageScript.Suite

/-- The actions of the steps that use an element in the given way, in order. -/
def actionsOf (steps : List Step) (use : Use) : List Action :=
  (steps.filter fun step => step.seeksElement && Use.ofStep step == use).map Step.action

namespace Uses

theorem lookup_add (use : Use) (action : Action) (uses : Uses) (other : Use) :
    (uses.add use action).lookup other =
      if other = use then some ((uses.lookup use).getD [] ++ [action])
      else uses.lookup other := by
  induction uses with
  | nil =>
      by_cases h : other = use
      · simp [add, h]
      · have hother : (other == use) = false := by simpa using h
        simp [add, List.lookup_cons, h, hother]
  | cons found uses ih =>
      rcases found with ⟨first, actions⟩
      by_cases hfirst : first = use
      · subst hfirst
        by_cases h : other = first
        · simp [add, h]
        · have hother : (other == first) = false := by simpa using h
          simp [add, List.lookup_cons, h, hother]
      · by_cases h : other = first
        · subst h
          simp [add, hfirst]
        · have hother : (other == first) = false := by simpa using h
          have huse : (use == first) = false := by simpa using Ne.symm hfirst
          simp [add, hfirst, List.lookup_cons, hother, huse, ih]

theorem map_fst_add (use : Use) (action : Action) (uses : Uses) :
    (uses.add use action).map Prod.fst =
      if use ∈ uses.map Prod.fst then uses.map Prod.fst else uses.map Prod.fst ++ [use] := by
  induction uses with
  | nil => simp [add]
  | cons found uses ih =>
      rcases found with ⟨first, actions⟩
      by_cases hfirst : first = use
      · simp [add, hfirst]
      · have huse : use ≠ first := Ne.symm hfirst
        by_cases hmem : use ∈ uses.map Prod.fst <;> simp_all [add]

theorem ofSteps_concat (steps : List Step) (step : Step) :
    ofSteps (steps ++ [step]) =
      if step.seeksElement then (ofSteps steps).add (.ofStep step) step.action
      else ofSteps steps := by
  cases h : step.seeksElement <;> simp [ofSteps, List.filter_append, List.foldl_append, h]

theorem actionsOf_concat (steps : List Step) (step : Step) (use : Use) :
    actionsOf (steps ++ [step]) use =
      actionsOf steps use ++
        if step.seeksElement && Use.ofStep step == use then [step.action] else [] := by
  by_cases h : (step.seeksElement && Use.ofStep step == use) = true <;>
    simp [actionsOf, List.filter_append, h]

/-- A use is listed with the actions of its steps, and listed at all if it has any. -/
theorem lookup_ofSteps (steps : List Step) (use : Use) :
    (ofSteps steps).lookup use =
      if actionsOf steps use = [] then none else some (actionsOf steps use) := by
  induction steps using List.reverseRecOn with
  | nil => rfl
  | append_singleton steps step ih =>
      rw [ofSteps_concat, actionsOf_concat]
      cases hseeks : step.seeksElement with
      | false => simpa using ih
      | true =>
          rw [if_pos rfl, lookup_add]
          by_cases huse : use = Use.ofStep step
          · subst huse
            have hgetD : ((ofSteps steps).lookup (Use.ofStep step)).getD [] =
                actionsOf steps (Use.ofStep step) := by
              rw [ih]
              split <;> simp_all
            simp [hgetD]
          · have hne : (Use.ofStep step == use) = false := by simpa using Ne.symm huse
            simpa [huse, hne] using ih

theorem nodup_ofSteps (steps : List Step) : ((ofSteps steps).map Prod.fst).Nodup := by
  induction steps using List.reverseRecOn with
  | nil => exact List.nodup_nil
  | append_singleton steps step ih =>
      rw [ofSteps_concat]
      split
      · rw [map_fst_add]
        split
        · exact ih
        · rename_i hnew
          exact List.nodup_append.mpr ⟨ih, List.nodup_singleton _, by
            rintro use huse later hlater rfl
            exact hnew (List.mem_singleton.mp hlater ▸ huse)⟩
      · exact ih

theorem eq_actionsOf_of_mem {steps : List Step} {use : Use} {actions : List Action}
    (hmem : (use, actions) ∈ ofSteps steps) :
    actions = actionsOf steps use ∧ actions ≠ [] := by
  have hlookup : (ofSteps steps).lookup use = some actions := by
    have hnodup := nodup_ofSteps steps
    generalize ofSteps steps = uses at hmem hnodup
    induction uses with
    | nil => exact absurd hmem List.not_mem_nil
    | cons found uses ih =>
        rcases found with ⟨first, known⟩
        rw [List.map_cons, List.nodup_cons] at hnodup
        rcases List.mem_cons.mp hmem with heq | hlater
        · obtain ⟨rfl, rfl⟩ := Prod.mk.inj heq
          simp
        · have hne : use ≠ first := by
            rintro rfl
            exact hnodup.1 (List.mem_map.mpr ⟨_, hlater, rfl⟩)
          have hbeq : (use == first) = false := by simpa using hne
          simpa [List.lookup_cons, hbeq] using ih hlater hnodup.2
  rw [lookup_ofSteps] at hlookup
  split at hlookup
  · exact absurd hlookup (by simp)
  · rename_i hne
    obtain rfl := Option.some.inj hlookup
    exact ⟨rfl, hne⟩

end Uses

namespace Method

theorem numbered_injective (name : Text) {m n : Nat} (h : numbered name m = numbered name n) :
    m = n :=
  Name.number_injective (List.append_cancel_left h)

theorem numbered_ne_self (name : Text) (n : Nat) : numbered name n ≠ name := by
  intro h
  have hlength := congrArg List.length h
  simp only [numbered, List.length_append] at hlength
  have hmark : ("_" : Text).length = 1 := rfl
  omega

/-- Among as many numbers as there are names, one is free: the name itself is
taken and takes none of them. -/
theorem exists_numbered_not_mem {taken : List Text} {name : Text} (hname : name ∈ taken) :
    ∃ i < taken.length, numbered name (i + 2) ∉ taken := by
  by_contra hall
  push Not at hall
  -- The name and as many numbered ones would be one more than there are taken.
  let candidates := (List.range taken.length).map fun i => numbered name (i + 2)
  have hnodup : (name :: candidates).Nodup := by
    refine List.nodup_cons.mpr ⟨?_, ?_⟩
    · intro hmem
      obtain ⟨i, -, hi⟩ := List.mem_map.mp hmem
      exact numbered_ne_self name _ hi
    · refine List.nodup_range.map fun i j hij => ?_
      have hnumber := numbered_injective name hij
      omega
  have hsubset : name :: candidates ⊆ taken := by
    intro candidate hcandidate
    rcases List.mem_cons.mp hcandidate with rfl | hcandidate
    · exact hname
    · obtain ⟨i, hi, rfl⟩ := List.mem_map.mp hcandidate
      exact hall i (List.mem_range.mp hi)
  have hlength := hnodup.length_le_of_subset hsubset
  simp only [candidates, List.length_cons, List.length_map, List.length_range] at hlength
  omega

/-- The search for a name, from a candidate and the number of the next one: while the candidate
is taken, the wanted name with the number is the next. -/
inductive Renaming (taken : List Text) (wanted : Text) : Text → Nat → Text → Prop
  | free {candidate : Text} {n : Nat} (hfree : candidate ∉ taken) :
      Renaming taken wanted candidate n candidate
  | next {candidate name : Text} {n : Nat} (htaken : candidate ∈ taken)
      (hrest : Renaming taken wanted (numbered wanted n) (n + 1) name) :
      Renaming taken wanted candidate n name

theorem Renaming.cases_name {taken : List Text} {wanted candidate name : Text} {n : Nat}
    (h : Renaming taken wanted candidate n name) :
    name ∉ taken ∧ (name = candidate ∨ ∃ number, name = numbered wanted number) := by
  induction h with
  | free hfree => exact ⟨hfree, .inl rfl⟩
  | next htaken hrest ih =>
      rcases ih with ⟨hfree, rfl | hnumbered⟩
      · exact ⟨hfree, .inr ⟨_, rfl⟩⟩
      · exact ⟨hfree, .inr hnumbered⟩

theorem renaming_of_forall_taken {taken : List Text} {wanted candidate : Text} {n k : Nat}
    (hcandidate : candidate ∈ taken) (htaken : ∀ j < k, numbered wanted (j + n) ∈ taken)
    (hfree : numbered wanted (k + n) ∉ taken) :
    Renaming taken wanted candidate n (numbered wanted (k + n)) := by
  induction k generalizing candidate n with
  | zero =>
      rw [Nat.zero_add] at hfree ⊢
      exact .next hcandidate (.free hfree)
  | succ k ih =>
      have hfirst : numbered wanted n ∈ taken := by simpa using htaken 0 (Nat.succ_pos k)
      have hlater : ∀ j, j + 1 + n = j + (n + 1) := by omega
      rw [hlater] at hfree ⊢
      refine .next hcandidate (ih hfirst (fun j hj => ?_) hfree)
      rw [← hlater]
      exact htaken (j + 1) (Nat.succ_lt_succ hj)

/-- The search for a name begins with the wanted one and the number two, and it ends. -/
theorem renaming_freshName (taken : List Text) (wanted : Text) :
    Renaming taken wanted wanted 2 (freshName taken wanted) := by
  unfold freshName
  split
  · rename_i htaken
    have hwanted := List.contains_iff_mem.mp htaken
    obtain ⟨i, hi, hfree⟩ := exists_numbered_not_mem hwanted
    rw [List.find?_map]
    cases hfound : (List.range taken.length).find?
        ((fun candidate => !taken.contains candidate) ∘ fun i => numbered wanted (i + 2)) with
    | none =>
        have hnone := List.find?_eq_none.mp hfound i (List.mem_range.mpr hi)
        simp [hfree] at hnone
    | some k =>
        obtain ⟨hk, -, hbefore⟩ := List.find?_range_eq_some.mp hfound
        refine renaming_of_forall_taken hwanted (fun j hj => ?_) (by simpa using hk)
        simpa using hbefore j hj
  · rename_i hfree
    exact .free (by simpa using hfree)

theorem freshName_cases (taken : List Text) (name : Text) :
    freshName taken name ∉ taken ∧
      (freshName taken name = name ∨ ∃ n, freshName taken name = numbered name n) :=
  (renaming_freshName taken name).cases_name

/-- The name of a method: it can stand in code, begins with the word for an
action, and so is not one that every class has. -/
structure IsMethodName (name : Text) : Prop where
  safe : Name.IsSafeText name
  action : ∃ action : Action, action.label <+: name

theorem label_prefix_wantedName (use : Use) (action : Action) (count : Nat) :
    (action.label ++ "_" : Text) <+: wantedName use action count := by
  unfold wantedName
  dsimp only
  split
  · have hword : ("_element_" : Text) = "_" ++ "element_" := by decide
    rw [hword, ← List.append_assoc, List.append_assoc]
    exact List.prefix_append _ _
  · exact List.prefix_append _ _

theorem isMethodName_wantedName (use : Use) (action : Action) (count : Nat) :
    IsMethodName (wantedName use action count) := by
  have hlabel : Name.IsSafeText action.label := by cases action <;> decide
  refine ⟨?_, action, (List.prefix_append _ _).trans (label_prefix_wantedName use action count)⟩
  unfold wantedName
  dsimp only
  split
  · exact (hlabel.append (by decide)).append (Name.isSafeText_number _)
  · exact (hlabel.append (by decide)).append (Name.isSafeText_slug _)

theorem isMethodName_freshName (taken : List Text) {name : Text} (hname : IsMethodName name) :
    IsMethodName (freshName taken name) := by
  rcases (freshName_cases taken name).2 with h | ⟨n, h⟩
  · rw [h]
    exact hname
  · obtain ⟨action, haction⟩ := hname.action
    rw [h]
    refine ⟨(hname.safe.append (by decide)).append (Name.isSafeText_number n), action, ?_⟩
    rw [numbered, List.append_assoc]
    exact haction.trans (List.prefix_append _ _)

/-- What a method has to do with the uses that it is made from. -/
structure IsFor (uses : Uses) (method : Method) : Prop where
  name : IsMethodName method.name
  source : ∃ actions, (method.use, actions) ∈ uses ∧ 2 ≤ actions.length ∧
    method.actions = actions.eraseDups

theorem addFor_cases (methods : List Method) (use : Use) (actions : List Action) :
    (actions.length < 2 ∧ addFor methods use actions = methods) ∨
      ∃ method : Method, addFor methods use actions = methods ++ [method] ∧
        2 ≤ actions.length ∧ method.use = use ∧ method.actions = actions.eraseDups ∧
        IsMethodName method.name ∧ method.name ∉ methods.map Method.name := by
  unfold addFor
  split
  · rename_i first second rest
    refine Or.inr ⟨_, rfl, by simp, rfl, rfl, ?_, ?_⟩
    · exact isMethodName_freshName _ (isMethodName_wantedName use first methods.length)
    · exact (freshName_cases _ _).1
  · rename_i hshort
    refine Or.inl ⟨?_, rfl⟩
    rcases actions with _ | ⟨first, _ | ⟨second, rest⟩⟩
    · simp
    · simp
    · exact absurd rfl (hshort first second rest)

/-- Methods for uses: each is for one of the uses, and no two share a name. -/
theorem foldl_addFor (uses done : Uses) (methods : List Method)
    (hfor : ∀ method ∈ methods, IsFor done method)
    (hnodup : (methods.map Method.name).Nodup) :
    let all := uses.foldl (fun methods (use, actions) => addFor methods use actions) methods
    (∀ method ∈ all, IsFor (done ++ uses) method) ∧ (all.map Method.name).Nodup := by
  -- The uses that are done grow with the methods, as what a method is for is said of all uses.
  induction uses generalizing done methods with
  | nil => simpa using ⟨hfor, hnodup⟩
  | cons found uses ih =>
      rcases found with ⟨use, actions⟩
      have hkeep : ∀ method ∈ methods, IsFor (done ++ [(use, actions)]) method := by
        intro method hmethod
        obtain ⟨hname, known, hknown, hrest⟩ := hfor method hmethod
        exact ⟨hname, known, List.mem_append_left _ hknown, hrest⟩
      have hsplit : done ++ (use, actions) :: uses = done ++ [(use, actions)] ++ uses := by simp
      rw [List.foldl_cons, hsplit]
      apply ih
      · rcases addFor_cases methods use actions with ⟨-, heq⟩ | ⟨new, heq, hlen, huse, hact, hname, -⟩
        · simpa only [heq] using hkeep
        · simp only [heq]
          intro method hmethod
          rcases List.mem_append.mp hmethod with hold | hnew
          · exact hkeep method hold
          · obtain rfl := List.mem_singleton.mp hnew
            exact ⟨hname, actions, by simp [huse], hlen, hact⟩
      · rcases addFor_cases methods use actions with ⟨-, heq⟩ | ⟨new, heq, -, -, -, -, hfresh⟩
        · simpa only [heq] using hnodup
        · simp only [heq, List.map_append, List.map_cons, List.map_nil]
          exact List.nodup_append.mpr ⟨hnodup, List.nodup_singleton _, by
            rintro name hname later hlater rfl
            exact hfresh (List.mem_singleton.mp hlater ▸ hname)⟩

theorem nodup_names (steps : List Step) : ((ofSteps steps).map Method.name).Nodup :=
  (foldl_addFor (Uses.ofSteps steps) [] [] (by simp) List.nodup_nil).2

theorem isFor_of_mem {steps : List Step} {method : Method} (hmethod : method ∈ ofSteps steps) :
    IsFor (Uses.ofSteps steps) method :=
  (foldl_addFor (Uses.ofSteps steps) [] [] (by simp) List.nodup_nil).1 method hmethod

/-- The actions of a method are those of the steps that it stands for, each once. -/
theorem actions_eq_of_mem {steps : List Step} {method : Method}
    (hmethod : method ∈ ofSteps steps) :
    method.actions = (actionsOf steps method.use).eraseDups ∧
      2 ≤ (actionsOf steps method.use).length := by
  obtain ⟨-, actions, hmem, hlength, hactions⟩ := isFor_of_mem hmethod
  obtain ⟨rfl, -⟩ := Uses.eq_actionsOf_of_mem hmem
  exact ⟨hactions, hlength⟩

theorem mem_actionsOf {steps : List Step} {use : Use} {action : Action} :
    action ∈ actionsOf steps use ↔
      ∃ step ∈ steps, step.seeksElement = true ∧ Use.ofStep step = use ∧ step.action = action := by
  simp [actionsOf, and_assoc]

theorem seeksElement_of_use_eq {step other : Step} (huse : Use.ofStep other = Use.ofStep step)
    (hother : other.seeksElement = true) : step.seeksElement = true := by
  have htarget : other.target = step.target := congrArg Use.target huse
  have hfamily : other.action.family = step.action.family := congrArg Use.family huse
  have hdigits : other.targetDigits? = step.targetDigits? := by
    simp only [Step.targetDigits?, htarget]
  unfold Step.seeksElement at hother ⊢
  cases hs : step.action <;> cases ho : other.action <;>
    simp_all [Action.family]

theorem eq_or_of_family_eq {first second : Action} (h : first.family = second.family) :
    first = second ∨ first = .fill ∧ second = .type ∨ first = .type ∧ second = .fill := by
  have hall : ∀ a ∈ Action.all, ∀ b ∈ Action.all, a.family = b.family →
      a = b ∨ a = .fill ∧ b = .type ∨ a = .type ∧ b = .fill := by decide
  exact hall first first.mem_all second second.mem_all h

theorem action_eq_of_family_eq {first second : Action} (h : first.family = second.family)
    (hfill : second ≠ .fill) (htype : second ≠ .type) : first = second := by
  rcases eq_or_of_family_eq h with hsame | ⟨-, hsecond⟩ | ⟨-, hsecond⟩
  · exact hsame
  · exact absurd hsecond htype
  · exact absurd hsecond hfill

theorem eraseDups_eq_singleton {actions : List Action} {action : Action} (hne : actions ≠ [])
    (hall : ∀ a ∈ actions, a = action) : actions.eraseDups = [action] := by
  cases actions with
  | nil => exact absurd rfl hne
  | cons first rest =>
      obtain rfl : first = action := hall first List.mem_cons_self
      have hrest : rest.filter (fun a => !a == first) = [] := by
        apply List.filter_eq_nil_iff.mpr
        intro a ha
        simp [hall a (List.mem_cons_of_mem _ ha)]
      rw [List.eraseDups_cons, hrest, List.eraseDups_nil]

/-- The method of a step stands for the step's action; it is mixed only if that
fills or types. -/
theorem find?_ofSteps {steps : List Step} {step : Step} {method : Method} (hstep : step ∈ steps)
    (hfind : find? (ofSteps steps) (.ofStep step) = some method) :
    method ∈ ofSteps steps ∧ method.use = .ofStep step ∧ step.seeksElement = true ∧
      (method.isMixed = false → method.actions = [step.action]) ∧
      (method.isMixed = true → step.action = .fill ∨ step.action = .type) := by
  have hmem : method ∈ ofSteps steps := List.mem_of_find?_eq_some hfind
  have huse : method.use = .ofStep step := by simpa using List.find?_some hfind
  obtain ⟨hactions, hlength⟩ := actions_eq_of_mem hmem
  rw [huse] at hactions hlength
  have hne : actionsOf steps (.ofStep step) ≠ [] := by
    intro hnil
    simp [hnil] at hlength
  have hseeks : step.seeksElement = true := by
    obtain ⟨action, haction⟩ := List.exists_mem_of_ne_nil _ hne
    obtain ⟨other, -, hother, heq, -⟩ := mem_actionsOf.mp haction
    exact seeksElement_of_use_eq heq hother
  -- The method is found under the use of the step, so it is one of those it was made from.
  have hown : step.action ∈ method.actions := by
    rw [hactions, List.mem_eraseDups]
    exact mem_actionsOf.mpr ⟨step, hstep, hseeks, rfl, rfl⟩
  refine ⟨hmem, huse, hseeks, ?_, ?_⟩
  · intro hmixed
    have hshort : method.actions.length ≤ 1 := by simpa [isMixed] using hmixed
    rcases hlist : method.actions with _ | ⟨first, _ | ⟨second, rest⟩⟩
    · simp [hlist] at hown
    · rw [hlist, List.mem_singleton] at hown
      rw [hown]
    · simp [hlist] at hshort
  · intro hmixed
    by_contra hother
    push Not at hother
    have hall : ∀ a ∈ actionsOf steps (.ofStep step), a = step.action := by
      intro a ha
      obtain ⟨other, -, -, heq, rfl⟩ := mem_actionsOf.mp ha
      exact action_eq_of_family_eq (congrArg Use.family heq) hother.1 hother.2
    rw [isMixed, hactions, eraseDups_eq_singleton hne hall] at hmixed
    simp at hmixed

/-- A method is mixed if, and only if, some of its steps fill and others type. -/
theorem isMixed_iff {steps : List Step} {method : Method} (hmethod : method ∈ ofSteps steps) :
    method.isMixed = true ↔
      .fill ∈ actionsOf steps method.use ∧ .type ∈ actionsOf steps method.use := by
  obtain ⟨hactions, hlength⟩ := actions_eq_of_mem hmethod
  have hfamily : ∀ a ∈ actionsOf steps method.use, a.family = method.use.family := by
    intro a ha
    obtain ⟨step, -, -, huse, rfl⟩ := mem_actionsOf.mp ha
    exact congrArg Use.family huse
  constructor
  · intro hmixed
    by_contra hnot
    obtain ⟨first, hfirst⟩ := List.exists_mem_of_length_pos (Nat.zero_lt_of_lt hlength)
    have hall : ∀ a ∈ actionsOf steps method.use, a = first := by
      intro a ha
      rcases eq_or_of_family_eq ((hfamily a ha).trans (hfamily first hfirst).symm) with
        hsame | ⟨rfl, rfl⟩ | ⟨rfl, rfl⟩
      · exact hsame
      · exact absurd ⟨ha, hfirst⟩ hnot
      · exact absurd ⟨hfirst, ha⟩ hnot
    rw [isMixed, hactions, eraseDups_eq_singleton (List.ne_nil_of_mem hfirst) hall] at hmixed
    simp at hmixed
  · rintro ⟨hfill, htype⟩
    rw [← List.mem_eraseDups, ← hactions] at hfill htype
    rw [isMixed, decide_eq_true_eq]
    by_contra hshort
    rcases hlist : method.actions with _ | ⟨first, _ | ⟨second, rest⟩⟩
    · simp [hlist] at hfill
    · simp [hlist] at hfill htype
      simp [← hfill] at htype
    · simp [hlist] at hshort

end Method

end PageScript.Suite
