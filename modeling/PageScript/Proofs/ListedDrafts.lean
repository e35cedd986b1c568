import Mathlib
import PageScript.Proofs.EmbeddedJson
import PageScript.Proofs.FieldValues
import PageScript.Proofs.SortedScenarios

namespace PageScript.Reply

open Datum.Json Record

variable {depth : Nat} {reply runId : Text} {n : Nat} {item : Datum} {items before : List Datum}
variable {drafts : List Draft} {issues : List Issue}

theorem json_of_read_self {v : Datum} {b : CodePoint}
    (hread : Datum.Json.read depth reply = .ok v) (hb : closing? v = some b) :
    json depth reply = .ok v := by
  obtain ⟨gap, core, behind, rfl, hgap, hbehind, hvalue⟩ := exists_valueText hread
  obtain ⟨o, inner, hbrackets, ho, rfl⟩ := hvalue.brackets b hb
  obtain rfl : core = enclosed o inner := hbrackets
  have hfence : fence <+: Text.trimStart gap → .char '\n' ∈ Text.trimStart gap := by
    rw [Text.trimStart, List.dropWhile_eq_nil_iff.mpr fun c hc => isBlank_of_isGap (hgap c hc)]
    exact fun h => absurd (List.prefix_nil.mp h) (by decide)
  obtain ⟨left, right, hleft, hright, hfirst, hunfenced⟩ :=
    unfenced_enclosed ho hfence inner behind
  obtain rfl : left = [] := by
    cases left with
    | nil => rfl
    | cons c left =>
        have hc := isBlank_of_isGap (hgap c (hleft.subset List.mem_cons_self))
        exact absurd hc (by rw [hfirst c rfl]; decide)
  have hskip : skipGap right = [] :=
    List.dropWhile_eq_nil_iff.mpr fun c hc => hbehind c (hright.subset hc)
  refine json_of_read ?_
  rw [hunfenced, List.nil_append, hvalue.read_append (by rw [hb]; exact Option.some_ne_none _), hskip]
  rfl

/-- The scenarios that drafts make, numbered from `n` on. -/
def numbered (runId : Text) : Nat → List Draft → List Scenario
  | _, [] => []
  | n, draft :: rest =>
      draft.toScenario (runId ++ "-" ++ toString n) :: numbered runId (n + 1) rest

theorem numbered_eq_mapIdx :
    numbered runId n drafts =
      drafts.mapIdx fun i draft => draft.toScenario (runId ++ "-" ++ toString (n + i)) := by
  induction drafts generalizing n with
  | nil => rfl
  | cons draft rest ih =>
      rw [numbered, ih, List.mapIdx_cons]
      simp only [Nat.add_zero, Nat.add_right_comm, Nat.add_assoc]

theorem scenariosFrom_append (hdrafts : List.Forall₂ (IsRecord Draft.IsTold) before drafts)
    (items : List Datum) :
    scenariosFrom runId n (before ++ items) =
      (scenariosFrom runId (n + before.length) items).map (numbered runId n drafts ++ ·) := by
  induction hdrafts generalizing n with
  | nil =>
      rw [List.nil_append, List.length_nil, Nat.add_zero]
      cases scenariosFrom runId n items <;> rfl
  | @cons item draft before drafts hitem hrest ih =>
      rw [List.cons_append, scenariosFrom, (Draft.finds item draft).mpr hitem]
      dsimp only
      rw [ih, List.length_cons, Nat.add_right_comm, Nat.add_assoc]
      cases scenariosFrom runId (n + (before.length + 1)) items <;> rfl

theorem drafts_or_first (items : List Datum) :
    (∃ drafts, List.Forall₂ (IsRecord Draft.IsTold) items drafts) ∨
      ∃ before item after drafts issues, items = before ++ item :: after ∧
        List.Forall₂ (IsRecord Draft.IsTold) before drafts ∧ Draft.read item = .invalid issues := by
  induction items with
  | nil => exact .inl ⟨[], .nil⟩
  | cons item rest ih =>
      cases hread : Draft.read item with
      | invalid issues => exact .inr ⟨[], item, rest, [], issues, rfl, .nil, hread⟩
      | valid draft =>
          have hitem := (Draft.finds item draft).mp hread
          rcases ih with ⟨drafts, hdrafts⟩ | ⟨before, first, after, drafts, issues, rfl, h⟩
          · exact .inl ⟨draft :: drafts, .cons hitem hdrafts⟩
          · exact .inr ⟨item :: before, first, after, draft :: drafts, issues, rfl,
              .cons hitem h.1, h.2⟩

theorem exists_draft_of_mem (hdrafts : List.Forall₂ (IsRecord Draft.IsTold) items drafts)
    (hitem : item ∈ items) : ∃ draft, IsRecord Draft.IsTold item draft := by
  obtain ⟨i, hi⟩ := List.getElem?_of_mem hitem
  obtain ⟨draft, -, hdraft⟩ := exists_of_forall₂ hdrafts hi
  exact ⟨draft, hdraft⟩

theorem scenariosFrom_of_drafts (hdrafts : List.Forall₂ (IsRecord Draft.IsTold) items drafts) :
    scenariosFrom runId n items = .ok (numbered runId n drafts) := by
  rw [← List.append_nil items, scenariosFrom_append hdrafts, scenariosFrom, Except.map,
    List.append_nil]

theorem scenariosFrom_of_first (hdrafts : List.Forall₂ (IsRecord Draft.IsTold) before drafts)
    (hitem : Draft.read item = .invalid issues) (after : List Datum) :
    scenariosFrom runId n (before ++ item :: after) =
      .error (.badScenario (n + before.length) issues) := by
  rw [scenariosFrom_append hdrafts, scenariosFrom, hitem]
  rfl

theorem scenarios_of_read {data : Datum} {b : CodePoint}
    (hread : Datum.Json.read depth reply = .ok data) (hb : closing? data = some b) (runId : Text) :
    scenarios depth reply runId = (Reply.items (payload data)).bind (scenariosFrom runId 1) := by
  rw [scenarios, json_of_read_self hread hb]
  rfl

theorem scenarios_of_nil (hread : Datum.Json.read depth reply = .ok (.list [])) (runId : Text) :
    scenarios depth reply runId = .error .noScenarios := by
  rw [scenarios_of_read hread rfl]
  rfl

theorem scenarios_of_list (hread : Datum.Json.read depth reply = .ok (.list items))
    (hne : items ≠ []) (runId : Text) : scenarios depth reply runId = scenariosFrom runId 1 items := by
  rw [scenarios_of_read hread rfl]
  cases items with
  | nil => exact absurd rfl hne
  | cons item rest => rfl

open CommandLine Problem

/-- A list of items, a map with that list under `scenarios` and an item that is all of the list
make the same of a reply.  If there are items and all are drafts, they make one scenario each, in
their order and numbered from one.  Otherwise nothing is made, and the error tells the number of
the first item that is no draft. -/
theorem scenarios_listed {listed runId : Text} {found : List Datum}
    (hlisted : Datum.Json.read depth listed = .ok (.list found)) :
    (∀ wrapped entries, Datum.Json.read depth wrapped = .ok (.map entries) →
      entries.lookup ("scenarios" : Text) = some (.list found) →
        scenarios depth wrapped runId = scenarios depth listed runId) ∧
    (∀ alone entries, Datum.Json.read depth alone = .ok (.map entries) →
      entries.lookup ("scenarios" : Text) = none → found = [.map entries] →
        scenarios depth alone runId = scenarios depth listed runId) ∧
    ((∃ made, scenarios depth listed runId = .ok made) ↔
      found ≠ [] ∧ ∀ item ∈ found, ∃ draft, IsRecord Draft.IsTold item draft) ∧
    (∀ made, scenarios depth listed runId = .ok made →
      ∃ drafts, List.Forall₂ (IsRecord Draft.IsTold) found drafts ∧
        made = drafts.mapIdx fun i draft =>
          ⟨runId ++ "-" ++ toString (i + 1), draft.name, draft.description?, draft.steps,
            draft.tags⟩) ∧
    ∀ error, scenarios depth listed runId = .error error →
      toldReply error = .kind "SchemaValidationError" error.message ∧
        (found = [] ∧ error = .noScenarios ∨
          ∃ before item after issues, found = before ++ item :: after ∧
            (∀ earlier ∈ before, ∃ draft, IsRecord Draft.IsTold earlier draft) ∧
            (∀ draft, ¬ IsRecord Draft.IsTold item draft) ∧ Draft.read item = .invalid issues ∧
            error = .badScenario (before.length + 1) issues ∧
            ("Scenario " ++ toString (before.length + 1) ++
              " does not match the draft schema: " : Text) <+: error.message) := by
  refine ⟨?_, ?_, ?_⟩
  · intro wrapped entries hread hlookup
    rw [scenarios_of_read hread rfl, scenarios_of_read hlisted rfl, payload, Datum.get?, hlookup]
    rfl
  · rintro alone entries hread hlookup rfl
    rw [scenarios_of_read hread rfl, scenarios_of_read hlisted rfl, payload, Datum.get?, hlookup]
    rfl
  · by_cases hne : found = []
    · subst hne
      rw [scenarios_of_nil hlisted]
      refine ⟨⟨nofun, fun h => absurd rfl h.1⟩, nofun, ?_⟩
      rintro error h
      obtain rfl := Except.error.inj h
      exact ⟨rfl, .inl ⟨rfl, rfl⟩⟩
    · rw [scenarios_of_list hlisted hne]
      rcases drafts_or_first found with ⟨drafts, hdrafts⟩ |
        ⟨before, item, after, drafts, issues, rfl, hdrafts, hitem⟩
      · rw [scenariosFrom_of_drafts hdrafts]
        refine ⟨⟨fun _ => ⟨hne, fun item hitem => exists_draft_of_mem hdrafts hitem⟩,
          fun _ => ⟨_, rfl⟩⟩, ?_, nofun⟩
        · rintro made h
          obtain rfl := Except.ok.inj h
          exact ⟨drafts, hdrafts, numbered_eq_mapIdx.trans (by simp only [Nat.add_comm]; rfl)⟩
      · have hnone : ∀ draft, ¬ IsRecord Draft.IsTold item draft := fun draft htold =>
          absurd (hitem.symm.trans ((Draft.finds item draft).mpr htold)) nofun
        rw [scenariosFrom_of_first hdrafts hitem]
        refine ⟨⟨nofun, fun ⟨_, h⟩ => ?_⟩, nofun, ?_⟩
        · obtain ⟨draft, hdraft⟩ := h item (List.mem_append_right before List.mem_cons_self)
          exact absurd hdraft (hnone draft)
        · rintro error h
          obtain rfl := Except.error.inj h
          rw [Nat.add_comm 1]
          exact ⟨rfl, .inr ⟨before, item, after, issues, rfl,
            fun earlier hearlier => exists_draft_of_mem hdrafts hearlier, hnone, hitem, rfl,
            List.prefix_append _ _⟩⟩

/-- A draft with an id, which is not kept, and one without steps. -/
def twoDrafts : Text :=
  "[\x7b\"id\":\"x\",\"name\":\"A\"," ++
    "\"steps\":[\x7b\"action\":\"wait\",\"target\":\"5\"\x7d]\x7d," ++
    "\x7b\"name\":\"B\",\"tags\":[\"t\"],\"steps\":[]\x7d]"

theorem scenarios_twoDrafts :
    scenarios maxDepth twoDrafts "r" =
        .ok [⟨"r-1", "A", none, [⟨.wait, "5", none, ""⟩], []⟩, ⟨"r-2", "B", none, [], ["t"]⟩] ∧
      scenarios maxDepth ("\x7b\"scenarios\":" ++ twoDrafts ++ "\x7d") "r" =
        scenarios maxDepth twoDrafts "r" := by
  have hread : Datum.Json.read maxDepth twoDrafts = .ok (.list
      [.map [("id", .text "x"), ("name", .text "A"),
        ("steps", .list [.map [("action", .text "wait"), ("target", .text "5")]])],
       .map [("name", .text "B"), ("tags", .list [.text "t"]), ("steps", .list [])]]) := by
    cbv
  refine ⟨?_, (scenarios_listed hread).1 _ _ (by cbv) rfl⟩
  cbv

end PageScript.Reply
