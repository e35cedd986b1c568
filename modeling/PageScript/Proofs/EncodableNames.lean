import PageScript.Proofs.CompiledScenarios
import PageScript.Proofs.NumberedFiles

namespace PageScript

/-- No surrogate stands in the text, so that it has bytes. -/
def Text.IsEncodable (text : Text) : Prop := ∀ c ∈ text, c.isSurrogate = false

theorem Text.isEncodable_append {s t : Text} :
    IsEncodable (s ++ t) ↔ IsEncodable s ∧ IsEncodable t := List.forall_mem_append

theorem Text.isEncodable_number (n : Nat) : IsEncodable (toString n) := by
  intro c hc
  have hdigit := Name.isDigit_of_mem_number hc
  cases c with
  | char digit => rfl
  | surrogate index => exact absurd hdigit nofun

theorem Suite.hasNames_iff {scenario : Scenario} {options : Options} :
    HasNames scenario options ↔
      Text.IsEncodable scenario.name ∧ (∀ name ∈ options.fileName?, Text.IsEncodable name) ∧
        Text.IsEncodable scenario.id ∧ ∀ id ∈ options.suiteId?, Text.IsEncodable id := by
  have hprefix : Text.IsEncodable suitePrefix := by
    unfold Text.IsEncodable
    decide
  unfold HasNames namedTexts
  change (∀ text ∈ _, Text.IsEncodable text) ↔ _
  simp only [List.forall_mem_append, List.forall_mem_singleton, Option.mem_toList, Option.mem_def,
    Text.isEncodable_append, and_iff_right hprefix, and_assoc]

def Scenario.withId (id : Text) (scenario : Scenario) : Scenario := { scenario with id := id }

namespace Run

theorem eq_of_cutAtLastStop? {name stem extension : Text}
    (h : cutAtLastStop? name = some (stem, extension)) : name = stem ++ "." ++ extension := by
  unfold cutAtLastStop? at h
  split at h
  · exact nomatch h
  · rename_i c back hback
    obtain ⟨rfl, rfl⟩ := Prod.mk.inj (Option.some.inj h)
    have hstop : c = .char '.' := by
      have hhead := List.head?_dropWhile_not (· != CodePoint.char '.') name.reverse
      rw [hback] at hhead
      simpa using hhead
    have hreverse : name.reverse =
        name.reverse.takeWhile (· != CodePoint.char '.') ++ c :: back := by
      rw [← hback, List.takeWhile_append_dropWhile]
    have hname := congrArg List.reverse hreverse
    rw [List.reverse_reverse, List.reverse_append, List.reverse_cons, hstop] at hname
    exact hname

theorem isEncodable_numberedName {name : Text} (n : Nat) :
    Text.IsEncodable (numberedName name n) ↔ Text.IsEncodable name := by
  have hunderscore : Text.IsEncodable "_" := by
    unfold Text.IsEncodable
    decide
  unfold numberedName
  split
  · rename_i stem extension hcut
    simp only [eq_of_cutAtLastStop? hcut, Text.isEncodable_append, hunderscore,
      Text.isEncodable_number, and_true]
  · simp only [Text.isEncodable_append, hunderscore, Text.isEncodable_number, and_true]

theorem isEncodable_fileName_optionsFor (options : Suite.Options) (index total : Nat) :
    (∀ name ∈ (optionsFor options index total).fileName?, Text.IsEncodable name) ↔
      ∀ name ∈ options.fileName?, Text.IsEncodable name := by
  unfold optionsFor
  split
  · rfl
  · rename_i name hname
    obtain ⟨hgiven, -⟩ := Option.filter_eq_some_iff.mp hname
    split
    · rfl
    · simp only [hgiven, Option.mem_some_iff, forall_eq', isEncodable_numberedName]

/-- The id of the scenario at a place of a run. -/
def idAt (runId : Text) (i : Nat) : Text := runId ++ "-" ++ toString (i + 1)

theorem hasNames_idAt_iff {scenario : Scenario} {runId : Text} (options : Suite.Options)
    (i index total : Nat) :
    Suite.HasNames (scenario.withId (idAt runId i)) (optionsFor options index total) ↔
      Suite.HasNames (scenario.withId runId) options := by
  have hhyphen : Text.IsEncodable "-" := by
    unfold Text.IsEncodable
    decide
  have hid : Text.IsEncodable (idAt runId i) ↔ Text.IsEncodable runId := by
    rw [idAt, Text.isEncodable_append, and_iff_left (Text.isEncodable_number _),
      Text.isEncodable_append, and_iff_left hhyphen]
  have hsuite : (optionsFor options index total).suiteId? = options.suiteId? := by
    obtain ⟨fileName?, hsame⟩ := exists_optionsFor_eq options index total
    rw [hsame]
  rw [Suite.hasNames_iff, Suite.hasNames_iff, isEncodable_fileName_optionsFor, hsuite]
  simp only [Scenario.withId, hid]

end Run

end PageScript
