import PageScript.Proofs.SafeNames
import PageScript.Proofs.SlugForm
/-!
Texts that spell the names of other texts.  Only a name that differs from its text has a digest,
so a text that is spelled like such a name is kept, and has the name of the other text.  Texts
with different digests have one name in no other way.
-/

namespace PageScript

namespace Name

variable {v w : Text}

theorem identifier_eq_iff_spells (hv : v ≠ "") (hw : w ≠ "")
    (hdigest : Digest.short v ≠ Digest.short w) {fallback other : Text} :
    identifier v fallback = identifier w other ↔ OneSpells id cleaned v w := by
  rw [identifier_eq_marked hv, identifier_eq_marked hw]
  apply marked_eq_iff_spells
  · rintro _ w rfl
    apply IsSafeText.cleaned_eq
    exact (isSafeText_cleaned w).append (isSafeText_digestSuffix w)
  · rintro rfl
    exact hdigest rfl
  · exact hdigest

theorem fileName_eq_iff_spells (hv : v ≠ "") (hw : w ≠ "")
    (hstem : withoutSuffix fileSuffix v ≠ withoutSuffix fileSuffix w)
    (hdigest : Digest.short v ≠ Digest.short w) {fallback other : Text} :
    fileName v fallback = fileName w other ↔
      OneSpells (withoutSuffix fileSuffix) testBase v w := by
  rw [fileName_eq_marked hv, fileName_eq_marked hw, List.append_left_inj]
  apply marked_eq_iff_spells
  · intro v w hspelled
    rw [testBase_eq_iff, hspelled]
    exact (isTestName_testBase w).append (isSafeText_digestSuffix w)
  · exact hstem
  · exact hdigest

theorem uniqueModuleName_eq_iff_spells (hdigest : Digest.short v ≠ Digest.short w) :
    uniqueModuleName v = uniqueModuleName w ↔ OneSpells id moduleName v w := by
  rw [uniqueModuleName_eq_marked, uniqueModuleName_eq_marked]
  apply marked_eq_iff_spells
  · rintro _ w rfl
    exact moduleName_append_digestSuffix w
  · rintro rfl
    exact hdigest rfl
  · exact hdigest

/-- When texts with different digests are made the same identifier, and the same file name. -/
theorem identifiers_and_fileNames_eq_iff (hv : v ≠ "") (hw : w ≠ "")
    (hdigest : Digest.short v ≠ Digest.short w) (fallback other : Text) :
    (identifier v fallback = identifier w other ↔ OneSpells id cleaned v w) ∧
      (withoutSuffix fileSuffix v ≠ withoutSuffix fileSuffix w →
        (fileName v fallback = fileName w other ↔
          OneSpells (withoutSuffix fileSuffix) testBase v w)) :=
  ⟨identifier_eq_iff_spells hv hw hdigest,
    fun hstem => fileName_eq_iff_spells hv hw hstem hdigest⟩

/-- Texts that are cleaned to one name are kept apart by their digests. -/
theorem identifiers_and_fileNames_logIn :
    cleaned "Log in" = cleaned "Log-in" ∧
      identifier "Log in" "suite" ≠ identifier "Log-in" "suite" ∧
      fileName "Log in" "test.py" ≠ fileName "Log-in.py" "test.py" := by
  have hidentifier := (identifiers_and_fileNames_eq_iff (v := "Log in") (w := "Log-in")
    (by decide) (by decide) (by decide +kernel) "suite" "suite").1
  have hfile := (identifiers_and_fileNames_eq_iff (v := "Log in") (w := "Log-in.py")
    (by decide) (by decide) (by decide +kernel) "test.py" "test.py").2 (by decide)
  refine ⟨by decide, ?_, ?_⟩
  · rw [Ne, hidentifier]
    decide +kernel
  · rw [Ne, hfile]
    decide +kernel

/-- A text that is spelled like the name of another text has that name. -/
theorem identifiers_and_fileNames_spelled :
    (Digest.short "a-b" ≠ Digest.short "a_b_34fafddd" ∧
      identifier "a-b" "suite" = identifier "a_b_34fafddd" "suite") ∧
    Digest.short "login" ≠ Digest.short "test_login_2736fab2" ∧
      withoutSuffix fileSuffix "login" ≠ withoutSuffix fileSuffix "test_login_2736fab2" ∧
      fileName "login" "test.py" = fileName "test_login_2736fab2" "test.py" := by
  decide +kernel

end Name

namespace Suite

open Name (OneSpells)

variable {options other : Options} {scenario v w : Scenario} {outcomes later : List Outcome}
  {artifact first second : Artifact}

theorem name_of_mem_pageObjects {object : SourceFile}
    (h : compile scenario options outcomes = .ok artifact)
    (hobject : object ∈ artifact.pageObjects) : object.name = pageModuleOf scenario := by
  obtain ⟨-, rfl⟩ := compile_eq_ok_iff.mp h
  obtain ⟨found, hfound, rfl⟩ := Option.map_eq_some_iff.mp (Option.mem_toList.mp hobject)
  rw [PageObject.eq_of_ofScenario? (Compiled.ofScenario?_of_pageObject? hfound)]
  rfl

/-- When scenarios whose names have different digests share a module: the tests by default, and
the page objects in any case. -/
theorem compile_modules_eq_iff (hdigest : Digest.short v.name ≠ Digest.short w.name) :
    (Name.uniqueModuleName v.name = Name.uniqueModuleName w.name ↔
      OneSpells id Name.moduleName v.name w.name) ∧
    ∀ {options other outcomes later first second},
      compile v options outcomes = .ok first → compile w other later = .ok second →
        (Text.nonempty? options.fileName? = none → Text.nonempty? other.fileName? = none →
          (first.testFileName = second.testFileName ↔
            OneSpells id Name.moduleName v.name w.name)) ∧
        ∀ object ∈ first.pageObjects, ∀ twin ∈ second.pageObjects,
          (object.name = twin.name ↔ OneSpells id Name.moduleName v.name w.name) := by
  have hnames := Name.uniqueModuleName_eq_iff_spells hdigest
  refine ⟨hnames, fun hfirst hsecond => ⟨fun hnone hother => ?_, ?_⟩⟩
  · rw [testFileName_eq hfirst, testFileName_eq hsecond, testFileNameOf_of_none hnone,
      testFileNameOf_of_none hother, List.append_left_inj, List.append_right_inj, hnames]
  · intro object hobject twin htwin
    rw [name_of_mem_pageObjects hfirst hobject, name_of_mem_pageObjects hsecond htwin,
      pageModuleOf, pageModuleOf, List.append_left_inj, hnames]

/-- The test that clicks an element twice, with another name. -/
def clicksNamed (name : Text) : Scenario := { clicksScenario with name := name }

/-- Names that slug alike are kept apart by their digests. -/
theorem compile_modules_logIn :
    Name.slug "Log in" = Name.slug "Log-in!" ∧
    ∃ first second, compile (clicksNamed "Log in") Options.standard [] = .ok first ∧
      compile (clicksNamed "Log-in!") Options.standard [] = .ok second ∧
      first.testFileName ≠ second.testFileName ∧
      first.pageObjects.length = 1 ∧ second.pageObjects.length = 1 ∧
      ∀ object ∈ first.pageObjects, ∀ twin ∈ second.pageObjects, object.name ≠ twin.name := by
  have hfirst : compile (clicksNamed "Log in") Options.standard [] =
      .ok (ofScenario (clicksNamed "Log in") Options.standard []).artifact := by rfl
  have hsecond : compile (clicksNamed "Log-in!") Options.standard [] =
      .ok (ofScenario (clicksNamed "Log-in!") Options.standard []).artifact := by rfl
  have hdigest : Digest.short (clicksNamed "Log in").name ≠
      Digest.short (clicksNamed "Log-in!").name := by
    decide +kernel
  have hspells : ¬ OneSpells id Name.moduleName (clicksNamed "Log in").name
      (clicksNamed "Log-in!").name := by
    decide +kernel
  obtain ⟨-, hmodules⟩ := compile_modules_eq_iff hdigest
  obtain ⟨htests, hobjects⟩ := hmodules hfirst hsecond
  refine ⟨by decide, _, _, hfirst, hsecond, ?_, rfl, rfl, fun object hobject twin htwin => ?_⟩
  · rw [Ne, htests rfl rfl]
    exact hspells
  · rw [Ne, hobjects object hobject twin htwin]
    exact hspells

/-- The scenario that is called like the module of another one is compiled to its files. -/
theorem compile_modules_spelled :
    Digest.short "Log in" ≠ Digest.short "log_in_f7c400ed" ∧
      Name.uniqueModuleName "Log in" = Name.uniqueModuleName "log_in_f7c400ed" ∧
      ∃ first second, compile (clicksNamed "Log in") Options.standard [] = .ok first ∧
        compile (clicksNamed "log_in_f7c400ed") Options.standard [] = .ok second ∧
        first.fileNames =
          [("log_in_f7c400ed_page.py" : Text), ("test_log_in_f7c400ed.py" : Text)] ∧
        second.fileNames = first.fileNames :=
  ⟨by decide +kernel, by decide +kernel, _, _, rfl, rfl, by decide +kernel, by decide +kernel⟩

end Suite

end PageScript
