import PageScript.Proofs.MirroredPages
import PageScript.Proofs.ResolvedSteps

namespace PageScript.Resolution

open Routine
open Scripted (Event)

variable {σ η : Type} {page : Page σ η} {element : η} {s t : σ} {tiers read : List Tier}
  {ending : Except Fault (Option (Tier × Text))}

/-- The call on the page that a tier is read by. -/
def Tier.event (tier : Tier) : Event :=
  match tier with
  | .text => .textRead
  | tier => .attributeRead tier.label

/-- What a tier offers when it is read in a state. -/
def offered (page : Page σ η) (element : η) (tier : Tier) (s : σ) : Except Fault (Option Text) :=
  (reading page element tier s).value.map tier.offer

/-- The tiers are read one after another, and none of them offers a selector. -/
inductive PassesOver (page : Page σ η) (element : η) : σ → List Tier → σ → Prop
  | nil (s : σ) : PassesOver page element s [] s
  | cons {s t : σ} {tier : Tier} {tiers : List Tier}
      (hnone : offered page element tier s = .ok none)
      (hrest : PassesOver page element (reading page element tier s).state tiers t) :
      PassesOver page element s (tier :: tiers) t

/-- The tiers that are read, how that ends, and in which state: with the selector of the first
tier that offers one, with none, or with the fault of a tier that cannot be read. -/
inductive IsFirstMatch (page : Page σ η) (element : η) (s : σ) :
    List Tier → List Tier → Except Fault (Option (Tier × Text)) → σ → Prop
  | nothing {tiers : List Tier} {t : σ} (hpassed : PassesOver page element s tiers t) :
      IsFirstMatch page element s tiers tiers (.ok none) t
  | found {passed rest : List Tier} {tier : Tier} {selector : Text} {t : σ}
      (hpassed : PassesOver page element s passed t)
      (hfound : offered page element tier t = .ok (some selector)) :
      IsFirstMatch page element s (passed ++ tier :: rest) (passed ++ [tier])
        (.ok (some (tier, selector))) (reading page element tier t).state
  | unread {passed rest : List Tier} {tier : Tier} {fault : Fault} {t : σ}
      (hpassed : PassesOver page element s passed t)
      (hfault : offered page element tier t = .error fault) :
      IsFirstMatch page element s (passed ++ tier :: rest) (passed ++ [tier])
        (.error fault) (reading page element tier t).state

theorem IsFirstMatch.cons {tier : Tier} (hnone : offered page element tier s = .ok none)
    (h : IsFirstMatch page element (reading page element tier s).state tiers read ending t) :
    IsFirstMatch page element s (tier :: tiers) (tier :: read) ending t := by
  cases h with
  | nothing hpassed => exact .nothing (.cons hnone hpassed)
  | found hpassed hfound => exact .found (.cons hnone hpassed) hfound
  | unread hpassed hfault => exact .unread (.cons hnone hpassed) hfault

theorem exists_isFirstMatch (page : Page σ η) (element : η) (s : σ) (tiers : List Tier) :
    ∃ read ending t, IsFirstMatch page element s tiers read ending t := by
  induction tiers generalizing s with
  | nil => exact ⟨[], .ok none, s, .nothing (.nil s)⟩
  | cons tier tiers ih =>
      cases hoffered : offered page element tier s with
      | error fault => exact ⟨[tier], .error fault, _, .unread (.nil s) hoffered⟩
      | ok selector? =>
          cases selector? with
          | some selector =>
              exact ⟨[tier], .ok (some (tier, selector)), _, .found (.nil s) hoffered⟩
          | none =>
              obtain ⟨read, ending, t, h⟩ := ih (reading page element tier s).state
              exact ⟨tier :: read, ending, t, h.cons hoffered⟩

theorem candidate_offered (page : Page σ η) (element : η) (tier : Tier) (s : σ) :
    (candidate page element tier s).value = offered page element tier s ∧
      (candidate page element tier s).state = (reading page element tier s).state := by
  rw [candidate_eq, offered]
  cases h : (reading page element tier s).value with
  | error fault =>
      rw [bind_of_error h]
      exact ⟨rfl, rfl⟩
  | ok read? =>
      rw [bind_of_ok h]
      exact ⟨rfl, rfl⟩

theorem firstCandidate_of_none {tier : Tier} (hnone : offered page element tier s = .ok none)
    (tiers : List Tier) :
    (firstCandidate page element (tier :: tiers) s).result =
      (firstCandidate page element tiers (reading page element tier s).state).result := by
  obtain ⟨hvalue, hstate⟩ := candidate_offered page element tier s
  rw [hnone] at hvalue
  rw [firstCandidate, bind_of_ok hvalue, hstate]
  rfl

theorem firstCandidate_of_some {tier : Tier} {selector : Text}
    (hfound : offered page element tier s = .ok (some selector)) (tiers : List Tier) :
    (firstCandidate page element (tier :: tiers) s).result =
      .ok (some (tier, selector), (reading page element tier s).state) := by
  obtain ⟨hvalue, hstate⟩ := candidate_offered page element tier s
  rw [hfound] at hvalue
  rw [firstCandidate, bind_of_ok hvalue, hstate]
  rfl

theorem firstCandidate_of_fault {tier : Tier} {fault : Fault}
    (hfault : offered page element tier s = .error fault) (tiers : List Tier) :
    (firstCandidate page element (tier :: tiers) s).result =
      .error ⟨fault, (reading page element tier s).state⟩ := by
  obtain ⟨hvalue, hstate⟩ := candidate_offered page element tier s
  rw [hfault] at hvalue
  rw [firstCandidate, bind_of_error hvalue, hstate]
  rfl

theorem PassesOver.firstCandidate_append (h : PassesOver page element s tiers t)
    (rest : List Tier) :
    (firstCandidate page element (tiers ++ rest) s).result =
      (firstCandidate page element rest t).result := by
  induction h with
  | nil s => rfl
  | cons hnone hrest ih => exact (firstCandidate_of_none hnone _).trans ih

theorem IsFirstMatch.firstCandidate_eq (h : IsFirstMatch page element s tiers read ending t) :
    (firstCandidate page element tiers s).value = ending ∧
      (firstCandidate page element tiers s).state = t := by
  cases h with
  | nothing hpassed =>
      have hresult := hpassed.firstCandidate_append []
      rw [List.append_nil] at hresult
      exact Done.result_eq_ok_iff.mp hresult
  | @found passed rest tier selector t hpassed hfound =>
      have hresult := hpassed.firstCandidate_append (tier :: rest)
      rw [firstCandidate_of_some hfound] at hresult
      exact Done.result_eq_ok_iff.mp hresult
  | @unread passed rest tier fault t hpassed hfault =>
      have hresult := hpassed.firstCandidate_append (tier :: rest)
      rw [firstCandidate_of_fault hfault] at hresult
      exact Done.result_eq_error_iff.mp hresult

theorem reading_recorded (page : Page σ η) (element : η) (tier : Tier) :
    reading page.recorded element tier = (reading page element tier).recordedAs tier.event := by
  cases tier <;> rfl

theorem offered_recorded (page : Page σ η) (element : η) (tier : Tier) (s : Recorded σ) :
    offered page.recorded element tier s = offered page element tier s.world := by
  rw [offered, offered, reading_recorded]
  rfl

theorem PassesOver.recorded (h : PassesOver page element s tiers t) (trace : List Event) :
    PassesOver page.recorded element ⟨s, trace⟩ tiers ⟨t, trace ++ tiers.map Tier.event⟩ := by
  induction h generalizing trace with
  | nil s =>
      rw [List.map_nil, List.append_nil]
      exact .nil _
  | @cons s t tier tiers hnone hrest ih =>
      rw [List.map_cons, List.append_cons]
      refine .cons ((offered_recorded page element tier _).trans hnone) ?_
      rw [reading_recorded]
      exact ih (trace ++ [tier.event])

theorem IsFirstMatch.recorded (h : IsFirstMatch page element s tiers read ending t)
    (trace : List Event) :
    IsFirstMatch page.recorded element ⟨s, trace⟩ tiers read ending
      ⟨t, trace ++ read.map Tier.event⟩ := by
  -- The last call is the one of the tier that ends the reading.
  have hlast : ∀ (passed : List Tier) (tier : Tier) (t : σ),
      (⟨(reading page element tier t).state, trace ++ (passed ++ [tier]).map Tier.event⟩ :
        Recorded σ) =
        (reading page.recorded element tier ⟨t, trace ++ passed.map Tier.event⟩).state := by
    intro passed tier t
    rw [reading_recorded, List.map_append, List.map_singleton, ← List.append_assoc]
    rfl
  cases h with
  | nothing hpassed => exact .nothing (hpassed.recorded trace)
  | found hpassed hfound =>
      rw [hlast]
      exact .found (hpassed.recorded trace) ((offered_recorded page element _ _).trans hfound)
  | unread hpassed hfault =>
      rw [hlast]
      exact .unread (hpassed.recorded trace) ((offered_recorded page element _ _).trans hfault)

/-- The calls on the page by which a step is resolved.  To put them on record changes nothing
else (`records_resolve`). -/
def callsMade (page : Page σ η) (step : Step) (index : Int) (s : σ) : List Event :=
  (resolve page.recorded step index ⟨s, []⟩).state.trace

variable {step : Step} {index : Int}

theorem callsMade_of_not_seeks (hseeks : step.seeksElement = false) :
    callsMade page step index s = [] := by
  rw [callsMade, resolve_of_not_seeks hseeks]

/-- A page with one field; its labels cannot be read. -/
def labellessScript : Scripted.Script where
  elements := [(".field", ⟨[("data-testid", some " "), ("id", some "user")], none⟩)]
  attributeFaults := [("aria-label", .failure ⟨"TimeoutError", "label"⟩)]

def fieldStep : Step := ⟨.fill, ".field", some "Ada", ""⟩

end PageScript.Resolution
