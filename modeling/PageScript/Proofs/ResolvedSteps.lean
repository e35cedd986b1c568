import PageScript.Proofs.RelatedPages

namespace PageScript

namespace Routine

variable {σ α : Type} {routine : Routine σ α} {handle : Failure → Routine σ α} {s : σ}

theorem orElse_of_ok {a : α} (h : (routine s).value = .ok a) :
    routine.orElse handle s = ⟨.ok a, (routine s).state, (routine s).log⟩ := by
  simp only [orElse, andThen, outcome_of_ok h, done_apply, List.append_nil]

theorem orElse_of_failure {failure : Failure} (h : (routine s).value = .error (.failure failure)) :
    routine.orElse handle s =
      ⟨(handle failure (routine s).state).value, (handle failure (routine s).state).state,
        (routine s).log ++ (handle failure (routine s).state).log⟩ := by
  simp only [orElse, andThen, outcome_of_failure h]

theorem orElse_of_interrupt {message : Text} (h : (routine s).value = .error (.interrupt message)) :
    routine.orElse handle s =
      ⟨.error (.interrupt message), (routine s).state, (routine s).log⟩ := by
  simp only [orElse, andThen, outcome_of_interrupt h]

end Routine

namespace Resolution

open Routine

variable {σ η : Type} {page : Page σ η} {step : Step} {index : Int} {element : η} {s : σ}

/-- The selector that a tier offers for what is read: for an attribute that is not blank, or
for a visible text that is neither empty nor too long. -/
def Tier.offer (tier : Tier) (read? : Option Text) : Option Text :=
  match tier with
  | .text => Selector.ofText? read?
  | tier => (read?.filter fun value => !Text.isBlankText value).map tier.selector

/-- Reading the attribute or the text that a tier is made of. -/
def reading (page : Page σ η) (element : η) (tier : Tier) : Routine σ (Option Text) :=
  match tier with
  | .text => page.textOf element
  | tier => page.attributeOf element tier.label

theorem candidate_eq (page : Page σ η) (element : η) (tier : Tier) :
    candidate page element tier =
      reading page element tier >>= fun read? => pure (tier.offer read?) := by
  cases tier <;> rfl

theorem exists_offer_of_firstCandidate {tiers : List Tier} {tier : Tier} {selector : Text}
    (hvalue : (firstCandidate page element tiers s).value = .ok (some (tier, selector))) :
    tier ∈ tiers ∧ ∃ read?, tier.offer read? = some selector := by
  induction tiers generalizing s with
  | nil => exact absurd hvalue (by simp [firstCandidate])
  | cons first tiers ih =>
      obtain ⟨found, hfound, hrest⟩ := value_bind_eq_ok hvalue
      cases found with
      | none =>
          obtain ⟨hmem, hoffer⟩ := ih hrest
          exact ⟨List.mem_cons_of_mem first hmem, hoffer⟩
      | some candidate =>
          obtain ⟨rfl, rfl⟩ := Prod.mk.inj (Option.some.inj (Except.ok.inj hrest))
          rw [candidate_eq] at hfound
          obtain ⟨read?, -, hread⟩ := value_bind_eq_ok hfound
          exact ⟨List.mem_cons_self, read?, Except.ok.inj hread⟩

/-- What becomes of a step when its element offers a selector, or none, before all others. -/
def settle (step : Step) (index : Int) : Option (Tier × Text) → Outcome
  | none => kept step index true .cssFallback (some noAlternative)
  | some (tier, selector) =>
      if tier = .id ∧ selector = Text.trim step.target then kept step index true .unchanged none
      else improved step index tier selector

/-- A failure leaves the step unresolved; an interrupt goes through. -/
def handled (step : Step) (index : Int) : Except Fault Outcome → Except Fault Outcome
  | .error (.failure failure) => .ok (kept step index false .unchanged (some failure.summary))
  | ended => ended

theorem settle_some_of_ne {tier : Tier} (htier : tier ≠ .id) (selector : Text) :
    settle step index (some (tier, selector)) = improved step index tier selector :=
  if_neg fun h => htier h.1

theorem settle_cases (step : Step) (index : Int) (found? : Option (Tier × Text)) :
    (∃ strategy warning?, settle step index found? = kept step index true strategy warning?) ∨
      ∃ tier selector, found? = some (tier, selector) ∧
        settle step index found? = improved step index tier selector := by
  rcases found? with _ | ⟨tier, selector⟩
  · exact .inl ⟨_, _, rfl⟩
  · by_cases hkept : tier = .id ∧ selector = Text.trim step.target
    · exact .inl ⟨_, _, if_pos hkept⟩
    · exact .inr ⟨tier, selector, rfl, if_neg hkept⟩

theorem settle_resolved (step : Step) (index : Int) (found? : Option (Tier × Text)) :
    (settle step index found?).resolved = true := by
  rcases settle_cases step index found? with ⟨_, _, h⟩ | ⟨_, _, _, h⟩ <;> rw [h] <;> rfl

/-- Apart from the log, stabilizing a step is settling it by the first candidate. -/
theorem stabilize_eq (page : Page σ η) (step : Step) (index : Int) (element : η) (s : σ) :
    (stabilize page step index element s).value =
        (firstCandidate page element (Tier.forAction step.action) s).value.map (settle step index) ∧
      (stabilize page step index element s).state =
        (firstCandidate page element (Tier.forAction step.action) s).state := by
  unfold stabilize
  cases h : (firstCandidate page element (Tier.forAction step.action) s).value with
  | error fault =>
      rw [bind_of_error h]
      exact ⟨rfl, rfl⟩
  | ok found? =>
      rw [bind_of_ok h]
      rcases found? with _ | ⟨tier, selector⟩
      · exact ⟨rfl, rfl⟩
      · cases tier with
        | id =>
            by_cases hsame : selector = Text.trim step.target
            · have hsettle : settle step index (some (.id, selector)) =
                  kept step index true .unchanged none := if_pos ⟨rfl, hsame⟩
              simp only [if_pos (beq_iff_eq.mpr hsame), Except.map, hsettle]
              exact ⟨rfl, rfl⟩
            · have hsettle : settle step index (some (.id, selector)) =
                  improved step index .id selector := if_neg fun h => hsame h.2
              simp only [beq_iff_eq, if_neg hsame, Except.map, hsettle]
              exact ⟨rfl, rfl⟩
        | testId | ariaLabel | role | text =>
            rw [Except.map, settle_some_of_ne (by decide)]
            exact ⟨rfl, rfl⟩

theorem resolveElement_of_missing (hfind : (page.find step.target s).value = .ok none) :
    (resolveElement page step index s).value =
        .ok (kept step index false .unchanged (some notFound)) ∧
      (resolveElement page step index s).state = (page.find step.target s).state := by
  rw [resolveElement, bind_of_ok hfind]
  exact ⟨rfl, rfl⟩

theorem resolveElement_of_fault {fault : Fault}
    (hfind : (page.find step.target s).value = .error fault) :
    (resolveElement page step index s).value = .error fault ∧
      (resolveElement page step index s).state = (page.find step.target s).state := by
  rw [resolveElement, bind_of_error hfind]
  exact ⟨rfl, rfl⟩

theorem resolveElement_of_stable (hfind : (page.find step.target s).value = .ok (some element))
    (hstable : Selector.isStable step.target = true) :
    (resolveElement page step index s).value = .ok (kept step index true .unchanged none) ∧
      (resolveElement page step index s).state = (page.find step.target s).state := by
  rw [resolveElement, bind_of_ok hfind]
  simp only [hstable, if_true]
  exact ⟨rfl, rfl⟩

theorem resolveElement_of_fragile (hfind : (page.find step.target s).value = .ok (some element))
    (hfragile : Selector.isStable step.target = false) :
    (resolveElement page step index s).value =
        (firstCandidate page element (Tier.forAction step.action)
          (page.find step.target s).state).value.map (settle step index) ∧
      (resolveElement page step index s).state =
        (firstCandidate page element (Tier.forAction step.action)
          (page.find step.target s).state).state := by
  rw [resolveElement, bind_of_ok hfind]
  simp only [hfragile, Bool.false_eq_true, if_false]
  exact stabilize_eq page step index element _

theorem resolve_of_seeks (hseeks : step.seeksElement = true) :
    (resolve page step index s).value =
        handled step index (resolveElement page step index s).value ∧
      (resolve page step index s).state = (resolveElement page step index s).state := by
  rw [resolve, if_pos hseeks]
  rcases value_cases (resolveElement page step index s).value with
    ⟨outcome, h⟩ | ⟨failure, h⟩ | ⟨message, h⟩
  · rw [orElse_of_ok h, h]
    exact ⟨rfl, rfl⟩
  · rw [orElse_of_failure h, h]
    exact ⟨rfl, rfl⟩
  · rw [orElse_of_interrupt h, h]
    exact ⟨rfl, rfl⟩

theorem resolve_of_not_seeks (hseeks : step.seeksElement = false) :
    resolve page step index s = ⟨.ok (kept step index true .unchanged none), s, []⟩ := by
  rw [resolve, if_neg (by simp [hseeks])]
  rfl

/-- The ways in which an outcome of a step arises on a page. -/
inductive Arises (page : Page σ η) (step : Step) (index : Int) (s : σ) : Outcome → Prop
  | skipped (hseeks : step.seeksElement = false) :
      Arises page step index s (kept step index true .unchanged none)
  | failed {failure : Failure} (hseeks : step.seeksElement = true)
      (hfault : (resolveElement page step index s).value = .error (.failure failure)) :
      Arises page step index s (kept step index false .unchanged (some failure.summary))
  | missing (hseeks : step.seeksElement = true)
      (hfind : (page.find step.target s).value = .ok none) :
      Arises page step index s (kept step index false .unchanged (some notFound))
  | stable {element : η} (hseeks : step.seeksElement = true)
      (hfind : (page.find step.target s).value = .ok (some element))
      (hstable : Selector.isStable step.target = true) :
      Arises page step index s (kept step index true .unchanged none)
  | settled {element : η} {found? : Option (Tier × Text)} (hseeks : step.seeksElement = true)
      (hfind : (page.find step.target s).value = .ok (some element))
      (hfragile : Selector.isStable step.target = false)
      (hfirst : (firstCandidate page element (Tier.forAction step.action)
        (page.find step.target s).state).value = .ok found?) :
      Arises page step index s (settle step index found?)

theorem Arises.value_resolve {outcome : Outcome} (h : Arises page step index s outcome) :
    (resolve page step index s).value = .ok outcome := by
  cases h with
  | skipped hseeks => rw [resolve_of_not_seeks hseeks]
  | failed hseeks hfault => rw [(resolve_of_seeks hseeks).1, hfault, handled]
  | missing hseeks hfind =>
      rw [(resolve_of_seeks hseeks).1, (resolveElement_of_missing hfind).1]
      rfl
  | stable hseeks hfind hstable =>
      rw [(resolve_of_seeks hseeks).1, (resolveElement_of_stable hfind hstable).1]
      rfl
  | settled hseeks hfind hfragile hfirst =>
      rw [(resolve_of_seeks hseeks).1, (resolveElement_of_fragile hfind hfragile).1, hfirst]
      rfl

theorem arises_of_value_resolveElement {outcome : Outcome} (hseeks : step.seeksElement = true)
    (hvalue : (resolveElement page step index s).value = .ok outcome) :
    Arises page step index s outcome := by
  cases hfind : (page.find step.target s).value with
  | error fault => exact absurd ((resolveElement_of_fault hfind).1.symm.trans hvalue) nofun
  | ok element? =>
      cases element? with
      | none =>
          obtain rfl := Except.ok.inj ((resolveElement_of_missing hfind).1.symm.trans hvalue)
          exact .missing hseeks hfind
      | some element =>
          cases hstable : Selector.isStable step.target with
          | true =>
              rw [(resolveElement_of_stable hfind hstable).1] at hvalue
              obtain rfl := Except.ok.inj hvalue
              exact .stable hseeks hfind hstable
          | false =>
              rw [(resolveElement_of_fragile hfind hstable).1] at hvalue
              obtain ⟨found?, hfirst, rfl⟩ := map_eq_ok hvalue
              exact .settled hseeks hfind hstable hfirst

/-- There is no other way for an outcome to arise. -/
theorem arises_of_value_resolve {outcome : Outcome}
    (hvalue : (resolve page step index s).value = .ok outcome) :
    Arises page step index s outcome := by
  cases hseeks : step.seeksElement with
  | false =>
      rw [resolve_of_not_seeks hseeks] at hvalue
      obtain rfl := Except.ok.inj hvalue
      exact .skipped hseeks
  | true =>
      rw [(resolve_of_seeks hseeks).1] at hvalue
      rcases value_cases (resolveElement page step index s).value with
        ⟨found, h⟩ | ⟨failure, h⟩ | ⟨message, h⟩
      · rw [h] at hvalue
        obtain rfl := Except.ok.inj hvalue
        exact arises_of_value_resolveElement hseeks h
      · rw [h] at hvalue
        obtain rfl := Except.ok.inj hvalue
        exact .failed hseeks h
      · rw [h] at hvalue
        exact absurd hvalue nofun

end Resolution

end PageScript
