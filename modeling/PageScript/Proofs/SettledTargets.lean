import PageScript.Proofs.FinalTargets
import PageScript.Proofs.FirstMatches
import PageScript.Proofs.RoutineContracts
/-!
Targets that are settled.  What a step is resolved to depends on what its element shows, and no
longer on the target that the step had; so the final target is the final one once more, if it
matches an element that shows the same.
-/

namespace PageScript

open Routine Resolution

variable {σ η : Type} {I J : σ → Prop} {p : Fault → Prop} {page : Page σ η} {element : η}
  {s t : σ}

/-- What an element shows of itself. -/
structure Look where
  attributeOf : Text → Option Text
  text? : Option Text

namespace Look

/-- What the look has for a tier. -/
def read (look : Look) : Tier → Option Text
  | .text => look.text?
  | tier => look.attributeOf tier.label

/-- The selector that the look offers for the first tier that has one. -/
def first? (look : Look) : List Tier → Option (Tier × Text)
  | [] => none
  | tier :: rest =>
      match tier.offer (look.read tier) with
      | some selector => some (tier, selector)
      | none => look.first? rest

end Look

/-- From a state of `I`, every read of the element ends in what the look has and in a state of
`I`, or in a fault that satisfies `p`. -/
structure Page.Shows (I : σ → Prop) (p : Fault → Prop) (page : Page σ η) (element : η)
    (look : Look) : Prop where
  attributeOf : ∀ name, Leads I (page.attributeOf element name)
    (fun value? s => value? = look.attributeOf name ∧ I s) fun fault _ => p fault
  textOf : Leads I (page.textOf element) (fun text? s => text? = look.text? ∧ I s)
    fun fault _ => p fault

namespace Page.Shows

variable {look : Look}

theorem leads_reading (h : page.Shows I p element look) (tier : Tier) :
    Leads I (reading page element tier) (fun read? s => read? = look.read tier ∧ I s)
      fun fault _ => p fault := by
  cases tier with
  | text => exact h.textOf
  | testId | id | ariaLabel | role => exact h.attributeOf _

theorem leads_candidate (h : page.Shows I p element look) (tier : Tier) :
    Leads I (candidate page element tier)
      (fun found? s => found? = tier.offer (look.read tier) ∧ I s) fun fault _ => p fault := by
  rw [candidate_eq]
  refine (h.leads_reading tier).bind fun read? => .assuming fun hread => ?_
  exact (Leads.pure _).of_imp fun s hs => ⟨congrArg tier.offer hread, hs⟩

theorem leads_firstCandidate (h : page.Shows I p element look) (tiers : List Tier) :
    Leads I (firstCandidate page element tiers) (fun found? s => found? = look.first? tiers ∧ I s)
      fun fault _ => p fault := by
  induction tiers with
  | nil => exact (Leads.pure _).of_imp fun s hs => ⟨rfl, hs⟩
  | cons tier tiers ih =>
      refine (h.leads_candidate tier).bind fun found? => .assuming fun hfound => ?_
      rw [Look.first?, ← hfound]
      cases found? with
      | none => exact ih
      | some selector => exact (Leads.pure _).of_imp fun s hs => ⟨rfl, hs⟩

end Page.Shows

namespace Resolution

variable {step : Step} {index : Int} {look : Look} {outcome : Outcome}

/-- Settling a step by the same candidate once more does not change the target again. -/
theorem finalTarget_settle_again (step : Step) (index : Int) (found? : Option (Tier × Text)) :
    (settle { step with target := (settle step index found?).finalTarget } index
      found?).finalTarget = (settle step index found?).finalTarget := by
  rcases found? with _ | ⟨tier, selector⟩
  · rfl
  · by_cases hkept : tier = .id ∧ selector = Text.trim step.target
    · have hsettle : settle step index (some (tier, selector)) =
          kept step index true .unchanged none := if_pos hkept
      rw [hsettle]
      exact congrArg Outcome.finalTarget hsettle
    · have hsettle : settle step index (some (tier, selector)) =
          improved step index tier selector := if_neg hkept
      rw [hsettle]
      change (settle { step with target := selector } index (some (tier, selector))).finalTarget =
        selector
      rw [settle]
      split <;> rfl

/-- Suppose that a step is resolved, and that its final target matches an element that shows
what the element of the step has shown, all of which can be read.  With the final target, the
step is resolved to it once more. -/
theorem resolve_again (hvalue : (resolve page step index s).value = .ok outcome)
    (hresolved : outcome.resolved = true)
    (hbefore : ∀ element, (page.find step.target s).value = .ok (some element) →
      I (page.find step.target s).state ∧ page.Shows I (fun _ => True) element look)
    (hafter : step.seeksElement = true →
      ∃ element, (page.find outcome.finalTarget t).value = .ok (some element) ∧
        J (page.find outcome.finalTarget t).state ∧ page.Shows J (fun _ => False) element look) :
    ∃ again, (resolve page { step with target := outcome.finalTarget } index t).value = .ok again ∧
      again.resolved = true ∧ again.finalTarget = outcome.finalTarget := by
  have htarget := resolve_finalTarget hvalue
  cases arises_of_value_resolve hvalue with
  | skipped hseeks => exact ⟨_, (Arises.skipped hseeks).value_resolve, rfl, rfl⟩
  | failed | missing => exact absurd hresolved nofun
  | stable hseeks hfind hstable =>
      obtain ⟨element, hfound, -, -⟩ := hafter hseeks
      exact ⟨_, (Arises.stable hseeks hfound hstable).value_resolve, rfl, rfl⟩
  | @settled element found? hseeks hfind hfragile hfirst =>
      have hsought := seeksElement_of_isFinalTarget htarget hseeks
      obtain ⟨element', hfound, ht, hshows'⟩ := hafter hseeks
      -- A stable target is kept whatever the element shows; for any other the tiers are read again.
      cases hstable : Selector.isStable (settle step index found?).finalTarget with
      | true => exact ⟨_, (Arises.stable hsought hfound hstable).value_resolve, rfl, rfl⟩
      | false =>
          obtain ⟨hs, hshows⟩ := hbefore element hfind
          obtain ⟨hlook, -⟩ := (hshows.leads_firstCandidate _).value _ _ hs hfirst
          obtain ⟨found', hfirst', hlook', -⟩ := (hshows'.leads_firstCandidate
            (Tier.forAction step.action)).exists_value ht
          obtain rfl : found' = found? := hlook'.trans hlook.symm
          exact ⟨_, (Arises.settled hsought hfound hstable hfirst').value_resolve,
            settle_resolved _ index found', finalTarget_settle_again step index found'⟩

end Resolution

namespace Scripted

def Element.look (element : Element) : Look :=
  ⟨fun name => (element.attributes.lookup name).join, element.text?⟩

theorem Script.page_shows {script : Script} (hattributes : script.attributeFaults = [])
    (htext : script.textFault? = none) (p : Fault → Prop) (element : Element) :
    Script.page.Shows (· = script) p element element.look := by
  have hattributeOf : ∀ name,
      script.attributeOf element name = .ok (element.attributes.lookup name).join := by
    intro name
    rw [Script.attributeOf, hattributes]
    rfl
  have htextOf : script.textOf element = .ok element.text? := by
    rw [Script.textOf, htext]
    rfl
  constructor
  · refine fun name => ⟨?_, ?_⟩
    · rintro s value? rfl hvalue
      exact ⟨Except.ok.inj (hvalue.symm.trans (hattributeOf name)), rfl⟩
    · rintro s fault rfl hfault
      exact absurd ((hattributeOf name).symm.trans hfault) nofun
  · refine ⟨?_, ?_⟩
    · rintro s text? rfl hvalue
      exact ⟨Except.ok.inj (hvalue.symm.trans htextOf), rfl⟩
    · rintro s fault rfl hfault
      exact absurd (htextOf.symm.trans hfault) nofun

end Scripted

namespace Resolution

open Scripted (Script)

def userField : Scripted.Element := ⟨[("id", some "user")], none⟩

def fieldScript : Script where
  elements := [(".field", userField), ("#user", userField)]

/-- The target becomes the selector of the id, and then it stays. -/
theorem resolve_fieldScript_again :
    (resolve Script.page fieldStep 0 fieldScript).value =
        .ok ⟨0, true, ".field", "#user", .cssFallback, none⟩ ∧
      ∃ again, (resolve Script.page { fieldStep with target := "#user" } 0 fieldScript).value =
        .ok again ∧ again.resolved = true ∧ again.finalTarget = "#user" := by
  have hvalue : (resolve Script.page fieldStep 0 fieldScript).value =
      .ok ⟨0, true, ".field", "#user", .cssFallback, none⟩ := by decide +kernel
  have hshows : ∀ p, Script.page.Shows (· = fieldScript) p userField userField.look :=
    fun p => Script.page_shows rfl rfl p userField
  refine ⟨hvalue, resolve_again (I := (· = fieldScript)) (J := (· = fieldScript))
    (t := fieldScript) hvalue rfl ?_ fun _ => ⟨userField, rfl, rfl, hshows _⟩⟩
  intro element hfind
  obtain rfl : userField = element := Option.some.inj (Except.ok.inj hfind)
  exact ⟨rfl, hshows _⟩

end Resolution

end PageScript
