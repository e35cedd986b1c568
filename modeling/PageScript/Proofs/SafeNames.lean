import PageScript.Proofs.EncodableNames
import PageScript.Proofs.SourceEncoding
import PageScript.Proofs.SuiteFiles

namespace PageScript

namespace Name

variable {s t text fallback stem module : Text}

theorem isSurrogate_of_isSafe {c : CodePoint} (hc : isSafe c = true) : c.isSurrogate = false := by
  obtain ⟨n, rfl⟩ := exists_char_of_isSafe hc
  rfl

theorem IsSafeText.isEncodable (hs : IsSafeText s) : Text.IsEncodable s :=
  fun c hc => isSurrogate_of_isSafe (hs c hc)

theorem withDigest_of_isEncodable (hs : Text.IsEncodable s) (name : Text → Text) :
    withDigest name s = .ok (name s) := by
  have hnone : Text.unencodable? s = none := by
    rw [Text.unencodable?, Text.unencodableFrom?_eq_none_iff]
    exact hs
  rw [withDigest, hnone]

theorem identifier_ne_empty (hfallback : fallback ≠ "") : identifier text fallback ≠ "" := by
  by_cases htext : text = ""
  · rw [htext]
    exact hfallback
  · rw [identifier_eq_marked htext, marked]
    intro hempty
    have hcleaned : cleaned text = [] := (List.append_eq_nil_iff.mp hempty).1
    exact htext (List.map_eq_nil_iff.mp hcleaned)

theorem IsSafeText.identifier_eq (hs : IsSafeText s) (hne : s ≠ "") (fallback : Text) :
    identifier s fallback = s := by
  rw [identifier_eq_marked hne, marked_of_eq hs.cleaned_eq]
  rfl

theorem IsTestName.append (hs : IsTestName s) (ht : IsSafeText t) : IsTestName (s ++ t) where
  safe := hs.safe.append ht
  begins := hs.begins.trans (List.prefix_append s t)

theorem isTestName_marked (text : Text) :
    IsTestName (marked (withoutSuffix fileSuffix) testBase text) := by
  apply (isTestName_testBase text).append
  split
  · exact isSafeText_nil
  · exact isSafeText_digestSuffix text

theorem exists_fileName_eq (hstem : IsTestName stem) (text : Text) :
    ∃ name, IsTestName name ∧ fileName text (stem ++ fileSuffix) = name ++ fileSuffix := by
  by_cases htext : text = ""
  · rw [htext]
    exact ⟨stem, hstem, rfl⟩
  · exact ⟨_, isTestName_marked text, fileName_eq_marked htext _⟩

theorem IsTestName.fileName_eq (hstem : IsTestName stem) (fallback : Text) :
    fileName (stem ++ fileSuffix) fallback = stem ++ fileSuffix := by
  have hne : stem ++ fileSuffix ≠ "" := by simp [fileSuffix, Text.ofString]
  have hkept : testBase (stem ++ fileSuffix) = withoutSuffix fileSuffix (stem ++ fileSuffix) := by
    rw [testBase_eq_iff, withoutSuffix_append]
    exact hstem
  rw [fileName_eq_marked hne, marked_of_eq hkept, withoutSuffix_append]

theorem IsTestName.isEncodable_fileName (hstem : IsTestName stem) :
    Text.IsEncodable (stem ++ fileSuffix) := by
  rw [Text.isEncodable_append]
  refine ⟨hstem.safe.isEncodable, ?_⟩
  unfold Text.IsEncodable
  decide

/-- A file with such a name is in the folder that it is put into. -/
structure StaysInFolder (file : Text) : Prop where
  slash : CodePoint.char '/' ∉ file
  backslash : CodePoint.char '\\' ∉ file
  parent : ¬ (("..") : Text) <:+: file

theorem staysInFolder (hmodule : IsSafeText module) : StaysInFolder (module ++ fileSuffix) := by
  have hnone {c : CodePoint} (hnot : isSafe c = false) : c ∉ module := by
    intro hc
    rw [hmodule c hc] at hnot
    exact absurd hnot (by decide)
  constructor
  · rw [List.mem_append, not_or]
    exact ⟨hnone (by decide), by decide⟩
  · rw [List.mem_append, not_or]
    exact ⟨hnone (by decide), by decide⟩
  · intro hparent
    -- Only the suffix has a stop, and it has one.
    have hcount := hparent.sublist.count_le (CodePoint.char '.')
    rw [List.count_append, List.count_eq_zero_of_not_mem (hnone (by decide))] at hcount
    exact absurd hcount (by decide)

end Name

namespace Suite

open Name (StaysInFolder)

variable {options : Options} {scenario : Scenario} {outcomes : List Outcome} {artifact : Artifact}

theorem exists_testFileNameOf_eq (options : Options) (scenario : Scenario) :
    ∃ name, Name.IsTestName name ∧ testFileNameOf options scenario = name ++ Name.fileSuffix := by
  have hdefault : Name.IsTestName ("test_" ++ Name.uniqueModuleName scenario.name) :=
    ⟨Name.IsSafeText.append (by decide) (Name.isSafeText_uniqueModuleName _),
      List.prefix_append _ _⟩
  exact Name.exists_fileName_eq hdefault (options.fileName?.getD "")

theorem suiteIdOf_ne_empty (options : Options) (scenario : Scenario) :
    suiteIdOf options scenario ≠ "" :=
  Name.identifier_ne_empty (Name.identifier_ne_empty (by decide))

theorem exists_fileName_eq_of_mem {file : Text}
    (h : compile scenario options outcomes = .ok artifact) (hfile : file ∈ artifact.fileNames) :
    ∃ module, Name.IsSafeText module ∧ file = module ++ Name.fileSuffix := by
  rcases (mem_fileNames_iff h).mp hfile with ⟨-, rfl⟩ | rfl
  · refine ⟨Name.uniqueModuleName scenario.name ++ "_page", ?_, rfl⟩
    exact (Name.isSafeText_uniqueModuleName _).append (by decide)
  · obtain ⟨name, hname, htest⟩ := exists_testFileNameOf_eq options scenario
    exact ⟨name, hname.safe, htest⟩

theorem suiteId_eq (h : compile scenario options outcomes = .ok artifact) :
    artifact.suiteId = suiteIdOf options scenario := by
  obtain ⟨-, rfl⟩ := compile_eq_ok_iff.mp h
  rfl

/-- The names of a compiled suite are of safe characters, and are kept when they are named again
with any other name to stand in for them. -/
theorem compile_names_safe (h : compile scenario options outcomes = .ok artifact) :
    (∃ rest, Name.IsSafeText rest ∧ artifact.testFileName = "test_" ++ rest ++ ".py") ∧
      (artifact.suiteId ≠ "" ∧ Name.IsSafeText artifact.suiteId) ∧
      (∀ fallback, Name.withDigest (Name.fileName · fallback) artifact.testFileName =
        .ok artifact.testFileName) ∧
      (∀ fallback, Name.withDigest (Name.identifier · fallback) artifact.suiteId =
        .ok artifact.suiteId) ∧
      ∀ file ∈ artifact.fileNames, StaysInFolder file := by
  have hfiles : ∀ file ∈ artifact.fileNames, StaysInFolder file := by
    intro file hfile
    obtain ⟨module, hmodule, rfl⟩ := exists_fileName_eq_of_mem h hfile
    exact Name.staysInFolder hmodule
  obtain ⟨name, hname, htest⟩ := exists_testFileNameOf_eq options scenario
  have hsuite := isSafeText_suiteIdOf options scenario
  have hnonempty := suiteIdOf_ne_empty options scenario
  rw [testFileName_eq h, suiteId_eq h, htest]
  refine ⟨?_, ⟨hnonempty, hsuite⟩, fun fallback => ?_, fun fallback => ?_, hfiles⟩
  · obtain ⟨rest, rfl⟩ := hname.begins
    exact ⟨rest, hname.safe.of_subset fun c hc => List.mem_append_right _ hc, rfl⟩
  · rw [Name.withDigest_of_isEncodable hname.isEncodable_fileName, hname.fileName_eq]
  · rw [Name.withDigest_of_isEncodable hsuite.isEncodable, hsuite.identifier_eq hnonempty]

/-- A scenario whose texts would climb out of any folder. -/
def climbingScenario : Scenario :=
  ⟨"../1", "../up", none, [⟨.click, "#a", none, ""⟩, ⟨.click, "#a", none, ""⟩], []⟩

def climbingOptions : Options :=
  { Options.standard with fileName? := some "../../etc/passwd.py", suiteId? := some "..\\.." }

theorem compile_climbingScenario_safe :
    ∃ artifact, compile climbingScenario climbingOptions [] = .ok artifact ∧
      artifact.fileNames =
        [("up_39ceb21f_page.py" : Text), ("test_______etc_passwd_b578c8ae.py" : Text)] ∧
      artifact.suiteId = "______be982fbe" ∧
      (∀ fallback, Name.withDigest (Name.fileName · fallback) artifact.testFileName =
        .ok artifact.testFileName) ∧
      (∀ fallback, Name.withDigest (Name.identifier · fallback) artifact.suiteId =
        .ok artifact.suiteId) ∧
      ∀ file ∈ artifact.fileNames, StaysInFolder file := by
  have hcompiled : compile climbingScenario climbingOptions [] =
      .ok (ofScenario climbingScenario climbingOptions []).artifact := by rfl
  obtain ⟨-, -, htest, hsuite, hfiles⟩ := compile_names_safe hcompiled
  exact ⟨_, hcompiled, by decide +kernel, by decide +kernel, htest, hsuite, hfiles⟩

end Suite

end PageScript
