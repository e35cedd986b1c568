import PageScript.Proofs.SharedMethods
/-!
The uses that methods are made for.  They are those of more than one step, in the order in which
they first appear; each of their methods is named after the first step that it is for, in view
of the methods before it.
-/

namespace PageScript.Suite

/-- How the steps that seek an element use it, in order. -/
def usesOf (steps : List Step) : List Use := (steps.filter Step.seeksElement).map Use.ofStep

/-- The uses of more than one step, in the order in which they first appear. -/
def sharedUses (steps : List Step) : List Use :=
  (usesOf steps).eraseDups.filter fun use => 2 ≤ (usesOf steps).count use

theorem count_usesOf_eq_countP (steps : List Step) (use : Use) :
    (usesOf steps).count use =
      steps.countP fun step => step.seeksElement && Use.ofStep step == use := by
  rw [usesOf, List.count_eq_countP, List.countP_map, List.countP_filter]
  refine List.countP_congr fun step _ => ?_
  simp [and_comm]

theorem count_usesOf (steps : List Step) (use : Use) :
    (usesOf steps).count use = (actionsOf steps use).length := by
  rw [count_usesOf_eq_countP, List.countP_eq_length_filter, actionsOf, List.length_map]

theorem usesOf_concat (steps : List Step) (step : Step) :
    usesOf (steps ++ [step]) =
      usesOf steps ++ if step.seeksElement then [Use.ofStep step] else [] := by
  cases hseeks : step.seeksElement <;> simp [usesOf, List.filter_append, hseeks]

theorem Uses.map_fst_ofSteps (steps : List Step) :
    (ofSteps steps).map Prod.fst = (usesOf steps).eraseDups := by
  induction steps using List.reverseRecOn with
  | nil => rfl
  | append_singleton steps step ih =>
      rw [ofSteps_concat, usesOf_concat]
      cases step.seeksElement with
      | false => simpa using ih
      | true =>
          rw [if_pos rfl, if_pos rfl, map_fst_add, ih, List.eraseDups_append]
          by_cases hmem : Use.ofStep step ∈ usesOf steps <;>
            simp [hmem, List.mem_eraseDups, List.removeAll, List.eraseDups_cons]

namespace Method

theorem map_use_foldl_addFor (uses : Uses) (methods : List Method) :
    (uses.foldl (fun methods (use, actions) => addFor methods use actions) methods).map Method.use =
      methods.map Method.use ++ (uses.filter fun item => 2 ≤ item.2.length).map Prod.fst := by
  induction uses generalizing methods with
  | nil => exact (List.append_nil _).symm
  | cons item uses ih =>
      rcases item with ⟨use, actions⟩
      rw [List.foldl_cons, ih]
      dsimp only
      rcases addFor_cases methods use actions with ⟨hshort, heq⟩ | ⟨method, heq, hlong, huse, -⟩
      · rw [heq, List.filter_cons_of_neg (by simpa using hshort)]
      · rw [heq, List.filter_cons_of_pos (by simpa using hlong), List.map_append,
          List.append_assoc, List.map_singleton, huse]
        rfl

theorem map_use_ofSteps (steps : List Step) :
    (ofSteps steps).map Method.use = sharedUses steps := by
  have hcount : ∀ item ∈ Uses.ofSteps steps,
      decide (2 ≤ item.2.length) = decide (2 ≤ (usesOf steps).count item.1) := by
    rintro ⟨use, actions⟩ hmem
    obtain ⟨rfl, -⟩ := Uses.eq_actionsOf_of_mem hmem
    rw [count_usesOf]
  rw [ofSteps, map_use_foldl_addFor, List.map_nil, List.nil_append, List.filter_congr hcount,
    sharedUses, ← Uses.map_fst_ofSteps, List.filter_map]
  rfl

theorem nodup_uses (steps : List Step) : ((ofSteps steps).map Method.use).Nodup := by
  rw [map_use_ofSteps, sharedUses, ← Uses.map_fst_ofSteps]
  exact (Uses.nodup_ofSteps steps).sublist List.filter_sublist

/-- The method has the name that is free among those of the methods before it, for an action
that one of the uses begins with. -/
def IsNamedAfter (uses : Uses) (before : List Method) (method : Method) : Prop :=
  ∃ action rest, (method.use, action :: rest) ∈ uses ∧ method.name =
    freshName (before.map Method.name) (wantedName method.use action before.length)

inductive AreNamed (uses : Uses) : List Method → Prop
  | nil : AreNamed uses []
  | concat {methods : List Method} {method : Method} (hmethods : AreNamed uses methods)
      (hmethod : method.IsNamedAfter uses methods) : AreNamed uses (methods ++ [method])

variable {uses : Uses} {methods : List Method}

theorem AreNamed.isNamedAfter (h : AreNamed uses methods) {i : Nat} {method : Method}
    (hmethod : methods[i]? = some method) : method.IsNamedAfter uses (methods.take i) := by
  induction h with
  | nil => exact nomatch hmethod
  | @concat methods last hmethods hlast ih =>
      rcases Nat.lt_or_ge i methods.length with hlt | hge
      · rw [List.getElem?_append_left hlt] at hmethod
        rw [List.take_append_of_le_length (Nat.le_of_lt hlt)]
        exact ih hmethod
      · rw [List.getElem?_append_right hge] at hmethod
        obtain ⟨hindex, hlast'⟩ := List.getElem?_eq_some_iff.mp hmethod
        obtain rfl : i = methods.length := by
          rw [List.length_singleton] at hindex
          omega
        obtain rfl : last = method := by simpa using hlast'
        rw [List.take_left]
        exact hlast

theorem AreNamed.addFor (h : AreNamed uses methods) {use : Use} {actions : List Action}
    (hmem : (use, actions) ∈ uses) : AreNamed uses (addFor methods use actions) := by
  unfold Method.addFor
  split
  · exact .concat h ⟨_, _, hmem, rfl⟩
  · exact h

theorem areNamed_foldl_addFor {later : Uses} (hlater : later ⊆ uses) (h : AreNamed uses methods) :
    AreNamed uses (later.foldl (fun methods (use, actions) => Method.addFor methods use actions)
      methods) := by
  induction later generalizing methods with
  | nil => exact h
  | cons item later ih =>
      rw [List.cons_subset] at hlater
      exact ih hlater.2 (h.addFor hlater.1)

/-- The name of a method is what the search comes to that begins with the name which its use
asks for. -/
theorem renaming_name {steps : List Step} {i : Nat} {method : Method}
    (hmethod : (ofSteps steps)[i]? = some method) :
    ∃ action, (actionsOf steps method.use).head? = some action ∧
      Renaming (((ofSteps steps).map Method.name).take i) (wantedName method.use action i)
        (wantedName method.use action i) 2 method.name := by
  have hnamed : AreNamed (Uses.ofSteps steps) (ofSteps steps) :=
    areNamed_foldl_addFor (List.Subset.refl _) .nil
  obtain ⟨action, rest, hmem, hname⟩ := hnamed.isNamedAfter hmethod
  obtain ⟨hactions, -⟩ := Uses.eq_actionsOf_of_mem hmem
  have hlength : ((ofSteps steps).take i).length = i := by
    have hlt := (List.getElem?_eq_some_iff.mp hmethod).1
    rw [List.length_take]
    omega
  refine ⟨action, by rw [← hactions]; rfl, ?_⟩
  rw [hname, hlength, List.map_take]
  exact renaming_freshName _ _

/-- The method of a use, as it is found by its use, is told by the list of uses and names. -/
theorem lookup_zip_names (methods : List Method) (use : Use) :
    ((methods.map Method.use).zip (methods.map Method.name)).lookup use =
      (find? methods use).map Method.name := by
  induction methods with
  | nil => rfl
  | cons method methods ih =>
      rw [List.map_cons, List.map_cons, List.zip_cons_cons, find?, List.find?_cons]
      by_cases huse : method.use = use
      · simp [huse]
      · have hne : (use == method.use) = false := by simpa using Ne.symm huse
        rw [List.lookup_cons, hne, decide_eq_false huse]
        exact ih

theorem find?_eq_of_mem {methods : List Method} (hnodup : (methods.map Method.use).Nodup)
    {method : Method} (hmethod : method ∈ methods) :
    find? methods method.use = some method := by
  cases hfound : find? methods method.use with
  | none => simpa using List.find?_eq_none.mp hfound method hmethod
  | some found =>
      have huse : found.use = method.use := by simpa using List.find?_some hfound
      exact congrArg some (List.inj_on_of_nodup_map hnodup (List.mem_of_find?_eq_some hfound)
        hmethod huse)

end Method

end PageScript.Suite
