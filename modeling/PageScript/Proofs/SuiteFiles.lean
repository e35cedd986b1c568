import PageScript.Proofs.SharedFiles

namespace PageScript

namespace Name

variable {text base fallback : Text}

/-- A file name stands for a module if it is the name of the module, with the suffix or
without it. -/
def Spells (fileName module : Text) : Prop := fileName = module ∨ fileName = module ++ fileSuffix

instance (fileName module : Text) : Decidable (Spells fileName module) :=
  inferInstanceAs (Decidable (fileName = module ∨ fileName = module ++ fileSuffix))

theorem withoutSuffix_eq_iff {module : Text} (hsafe : IsSafeText module) :
    withoutSuffix fileSuffix text = module ↔ Spells text module := by
  constructor
  · rintro rfl
    by_cases hsuffix : fileSuffix <:+ text
    · obtain ⟨stem, rfl⟩ := hsuffix
      rw [withoutSuffix_append]
      exact .inr rfl
    · exact .inl (withoutSuffix_of_not_suffix hsuffix).symm
  · rintro (rfl | rfl)
    · refine withoutSuffix_of_not_suffix fun hsuffix => ?_
      exact absurd (hsafe (.char '.') (hsuffix.mem (by decide))) (by decide)
    · exact withoutSuffix_append fileSuffix module

/-- A given file name becomes the file of a page object only if nothing has to be changed about
it: it spells the module of the page object, and that begins as the name of a test. -/
theorem fileName_eq_page_iff (hbase : IsSafeText base) (htext : text ≠ "") :
    fileName text fallback = base ++ "_page" ++ fileSuffix ↔
      Spells text (base ++ "_page") ∧ ("test_" : Text) <+: base ++ "_page" := by
  have hsafe : IsSafeText (base ++ "_page") := hbase.append (by decide)
  rw [fileName_eq_marked htext, List.append_left_inj, ← withoutSuffix_eq_iff hsafe]
  constructor
  · intro h
    by_cases hkept : testBase text = withoutSuffix fileSuffix text
    · rw [marked_of_eq hkept] at h
      exact ⟨h, h ▸ (testBase_eq_iff.mp hkept).begins⟩
    · rw [marked_of_ne hkept] at h
      exact absurd h (append_digestSuffix_ne_page _ text base)
  · rintro ⟨hstem, htest⟩
    have hname : IsTestName (withoutSuffix fileSuffix text) := by
      rw [hstem]
      exact ⟨hsafe, htest⟩
    rw [marked_of_eq (testBase_eq_iff.mpr hname), hstem]

/-- The name that a test has by default is not the module of the page object: the texts that are
added in front and behind differ in their letters. -/
theorem test_append_ne_append_page (base : Text) : "test_" ++ base ≠ base ++ "_page" := by
  intro h
  have hcount := congrArg (List.count (CodePoint.char 's')) h
  rw [List.count_append, List.count_append, Nat.add_comm] at hcount
  exact absurd (Nat.add_left_cancel hcount) (by decide)

end Name

namespace Suite

open Name (Spells)

variable {options : Options} {scenario : Scenario} {outcomes : List Outcome} {artifact : Artifact}

/-- The module of the page object of a scenario, if it has one. -/
def pageModuleOf (scenario : Scenario) : Text := Name.uniqueModuleName scenario.name ++ "_page"

theorem pageFileNameOf_eq_testFileNameOf_iff :
    pageFileNameOf scenario = testFileNameOf options scenario ↔
      ∃ name ∈ options.fileName?, Spells name (pageModuleOf scenario) ∧
        ("test_" : Text) <+: pageModuleOf scenario := by
  have hbase := Name.isSafeText_uniqueModuleName scenario.name
  have hdefault : ∀ fallback : Text,
      fallback = "test_" ++ Name.uniqueModuleName scenario.name ++ ".py" →
        pageFileNameOf scenario ≠ Name.fileName "" fallback := by
    rintro _ rfl h
    exact Name.test_append_ne_append_page _ (List.append_cancel_right h).symm
  unfold testFileNameOf
  cases hname : options.fileName? with
  | none => simpa using hdefault _ rfl
  | some name =>
      rw [Option.getD_some]
      by_cases hempty : name = ""
      · subst hempty
        have hspells : ¬ Spells "" (pageModuleOf scenario) := by
          simp [Spells, pageModuleOf, Text.ofString, Name.fileSuffix]
        simpa [hspells] using hdefault _ rfl
      · rw [eq_comm, pageFileNameOf, Name.fileName_eq_page_iff hbase hempty]
        simp [pageModuleOf]

/-- The files of a suite have different names, unless it has a page object and the file name that
is given for the test spells the module of that page object, which begins as the name of a
test. -/
theorem compile_fileNames_nodup_iff (h : compile scenario options outcomes = .ok artifact) :
    artifact.fileNames.Nodup ↔
      ¬ (HasPageObject options scenario ∧
        ∃ name ∈ options.fileName?, Spells name (pageModuleOf scenario) ∧
          ("test_" : Text) <+: pageModuleOf scenario) := by
  rw [← pageFileNameOf_eq_testFileNameOf_iff, fileNames_eq h]
  by_cases hhas : HasPageObject options scenario
  · simp [hhas]
  · simp [hhas]

/-- A test that clicks an element twice, so that it has a page object. -/
def clicksScenario : Scenario :=
  ⟨"s-1", "test", none, [⟨.click, "#a", none, ""⟩, ⟨.click, "#a", none, ""⟩], []⟩

/-- A file name that the name of a test and a digest are added to is none of a page object. -/
theorem compile_clicksScenario_nodup :
    ∃ artifact, compile clicksScenario { Options.standard with fileName? := some "page" } [] =
        .ok artifact ∧
      HasPageObject { Options.standard with fileName? := some "page" } clicksScenario ∧
      artifact.fileNames.Nodup := by
  have hcompiled : compile clicksScenario { Options.standard with fileName? := some "page" } [] =
      .ok (ofScenario clicksScenario { Options.standard with fileName? := some "page" }
        []).artifact := by rfl
  refine ⟨_, hcompiled, by decide, (compile_fileNames_nodup_iff hcompiled).mpr ?_⟩
  rintro ⟨-, name, hname, hspells, -⟩
  obtain rfl := Option.some.inj hname
  exact absurd hspells (by decide +kernel)

/-- The scenario `test` has the page object `test_page`, and a test that is to be called
`test_page` is written to the same file. -/
theorem compile_clicksScenario_overwrites :
    ∃ artifact, compile clicksScenario { Options.standard with fileName? := some "test_page" } [] =
        .ok artifact ∧
      artifact.fileNames = [("test_page.py" : Text), ("test_page.py" : Text)] :=
  ⟨_, rfl, by decide +kernel⟩

end Suite

end PageScript
