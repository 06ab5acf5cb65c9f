import ExportAudit.Analysis.Coverage
import ExportAudit.Proofs.Analysis.Verdict
import ExportAudit.Proofs.Usage.Located

/-!
# How a measurement ends

A measurement always ends with a result, and in one of three ways: the module is skipped
because its test file is missing, it fails because its exports or its test are not to be
had, or it is measured, and then the report is made from the exports that were found and
the usages that were located.

What a test must offer depends on the strategy alone.  **So two measurements of a module
whose exports have the same names end alike**, and a module that passes its validation has
the same names in its source and in its dump.
-/

namespace ExportAudit.Analysis

set_option autoImplicit false

open ExportAudit.Dump ExportAudit.Export ExportAudit.Source ExportAudit.Usage

variable {setup : Setup} {input : ModuleInput} {options : CoverageOptions}

/-! ## What a measurement needs -/

/-- The test file is missing, and then the module is skipped. -/
def Skips (setup : Setup) (input : ModuleInput) (options : CoverageOptions) : Prop :=
  setup.files.isFile input.testPath = false ∧ options.skipMissingTests = true

/-- The exports of a module are found in one of their places. -/
def ExportsFound (setup : Setup) (input : ModuleInput) (place : ExportsSource)
    (found : Exports) : Prop :=
  sourceOf setup input.modulePath [] >>= exportsOf setup input place = .ok found

/-- A dump of a test is what its strategy needs: none, or one that is produced and has a
node. -/
inductive TestDump (setup : Setup) (input : ModuleInput) :
    UsageStrategy → Option String → Prop where
  | fast : TestDump setup input .fast none
  | tree {dump : String} (produced : setup.dumps.dump input.testPath = .ok dump)
      (hasNode : (parseDump dump).any Line.isNode = true) : TestDump setup input .tree (some dump)

/-- A test that can be searched: its source is read, and it has the dump it needs. -/
structure TestReady (setup : Setup) (input : ModuleInput) (strategy : UsageStrategy)
    (test : TestInput) : Prop where
  path : test.path = input.testPath
  readable : setup.files.readText input.testPath = .ok test.source
  dump : TestDump setup input strategy test.dump

/-! ## The three ways to end -/

/-- A measurement has a result. -/
inductive Ends (setup : Setup) (input : ModuleInput) (options : CoverageOptions) :
    ModuleCoverage → Prop where
  | skipped {result : ModuleCoverage} (skips : Skips setup input options)
      (status : result.status = .skipped) (report : result.report = none) :
      Ends setup input options result
  | failed {result : ModuleCoverage} (goesOn : ¬ Skips setup input options)
      (lacking : ¬ ∃ found test, ExportsFound setup input options.exports found ∧
        TestReady setup input options.strategy test)
      (status : result.status = .failed) (report : result.report = none) :
      Ends setup input options result
  | measured {result : ModuleCoverage} {found : Exports} {test : TestInput} {usages : UsageMap}
      (goesOn : ¬ Skips setup input options)
      (exports : ExportsFound setup input options.exports found)
      (ready : TestReady setup input options.strategy test)
      (located : (setup.locator options.strategy).locate found.names test = .ok usages)
      (status : result.status = .measured)
      (report : result.report = some (.ofUsages usages found.catalog)) :
      Ends setup input options result

theorem TestDump.isSome {strategy : UsageStrategy} {dump : Option String}
    (testDump : TestDump setup input strategy dump) (walks : strategy = .tree) :
    dump.isSome = true := by
  cases testDump with
  | fast => cases walks
  | tree => rfl

/-- The dump of a test is had, or there is none to be had. -/
theorem testDumpOf_cases (setup : Setup) (input : ModuleInput) (strategy : UsageStrategy)
    (notes : List String) :
    (∃ setback, testDumpOf setup input (setup.locator strategy) notes = .error setback ∧
        ∀ dump, ¬ TestDump setup input strategy dump) ∨
      ∃ dump noted, testDumpOf setup input (setup.locator strategy) notes = .ok (dump, noted) ∧
        TestDump setup input strategy dump := by
  cases strategy with
  | fast => exact .inr ⟨none, notes, rfl, .fast⟩
  | tree =>
    have needsDump : (setup.locator .tree).needsDump = true := rfl
    rw [testDumpOf, if_pos needsDump, dumpOf]
    cases produced : setup.dumps.dump input.testPath with
    | error failure =>
      refine .inl ⟨_, rfl, fun dump testDump => ?_⟩
      cases testDump with
      | tree other _ => cases produced.symm.trans other
    | ok dump =>
      by_cases hasNode : (parseDump dump).any Line.isNode = true
      · exact .inr ⟨some dump, _, if_pos hasNode, .tree produced hasNode⟩
      · refine .inl ⟨_, if_neg hasNode, fun dump' testDump => ?_⟩
        cases testDump with
        | tree other otherHasNode =>
          cases produced.symm.trans other
          exact hasNode otherHasNode

/-- The test that a measurement makes ready, with the notes taken. -/
def testOf (setup : Setup) (input : ModuleInput) (strategy : UsageStrategy)
    (notes : List String) : Except Setback (TestInput × List String) := do
  let source ← sourceOf setup input.testPath notes
  let (dump, notes) ← testDumpOf setup input (setup.locator strategy) notes
  .ok ({ path := input.testPath, source, dump }, notes)

/-- The test is made ready, or it cannot be. -/
theorem testOf_cases (setup : Setup) (input : ModuleInput) (strategy : UsageStrategy)
    (notes : List String) :
    (∃ setback, testOf setup input strategy notes = .error setback ∧
        ¬ ∃ test, TestReady setup input strategy test) ∨
      ∃ test noted, testOf setup input strategy notes = .ok (test, noted) ∧
        TestReady setup input strategy test := by
  rw [testOf, sourceOf]
  cases readable : setup.files.readText input.testPath with
  | error error =>
    refine .inl ⟨_, rfl, ?_⟩
    rintro ⟨test, ready⟩
    cases readable.symm.trans ready.readable
  | ok source =>
    rcases testDumpOf_cases setup input strategy notes with
      ⟨setback, failed, none⟩ | ⟨dump, noted, produced, testDump⟩
    · rw [failed]
      exact .inl ⟨setback, rfl, fun ⟨test, ready⟩ => none test.dump ready.dump⟩
    · rw [produced]
      exact .inr ⟨{ path := input.testPath, source, dump }, noted, rfl, rfl, readable, testDump⟩

/-! ## The course of a measurement -/

/-- A result for a module. -/
def resultFor (input : ModuleInput) (status : CoverageStatus) (issues : List Issue)
    (notes : List String) (report : Option CoverageReport) : ModuleCoverage :=
  { moduleName := input.name
    path := input.modulePath
    testPath := input.testPath
    status, report, issues, notes }

/-- The issue of a module whose test file is missing. -/
def missingTest (input : ModuleInput) : Issue :=
  { path := input.modulePath.text, finding := .noTestFile input.testPath.text }

/-- The warning on a module in which no exports are found. -/
def emptyWarnings (input : ModuleInput) (options : CoverageOptions) (found : Exports) :
    List Issue :=
  if found.names.isEmpty then
    [{ path := input.modulePath.text, finding := .emptyExtraction options.exports.extractor }]
  else []

/-- What a measurement goes through, and the result that it has then. -/
inductive Course (setup : Setup) (input : ModuleInput) (options : CoverageOptions) :
    ModuleCoverage → Prop where
  | skipped (skips : Skips setup input options) :
      Course setup input options (resultFor input .skipped [missingTest input] [] none)
  | noExports {setback : Setback} (goesOn : ¬ Skips setup input options)
      (lacking : sourceOf setup input.modulePath [] >>= exportsOf setup input options.exports =
        .error setback) :
      Course setup input options (resultFor input .failed [setback.issue] setback.notes none)
  | noTest {found : Exports} {setback : Setback} (goesOn : ¬ Skips setup input options)
      (exports : ExportsFound setup input options.exports found)
      (lacking : testOf setup input options.strategy found.notes = .error setback) :
      Course setup input options (resultFor input .failed
        (emptyWarnings input options found ++ [setback.issue]) setback.notes none)
  | measured {found : Exports} {test : TestInput} {notes : List String} {usages : UsageMap}
      (goesOn : ¬ Skips setup input options)
      (exports : ExportsFound setup input options.exports found)
      (prepared : testOf setup input options.strategy found.notes = .ok (test, notes))
      (located : (setup.locator options.strategy).locate found.names test = .ok usages) :
      Course setup input options (resultFor input .measured (emptyWarnings input options found)
        (notes ++ [reportNote options (.ofUsages usages found.catalog)])
        (some (.ofUsages usages found.catalog)))

/-- What is made ready is ready. -/
theorem testReady_of_testOf {strategy : UsageStrategy} {notes noted : List String}
    {test : TestInput} (prepared : testOf setup input strategy notes = .ok (test, noted)) :
    TestReady setup input strategy test := by
  rcases testOf_cases setup input strategy notes with
    ⟨setback, failed, -⟩ | ⟨test', noted', prepared', ready⟩
  · cases failed.symm.trans prepared
  · cases prepared'.symm.trans prepared
    exact ready

/-- A test that is not made ready cannot be. -/
theorem not_testReady_of_testOf {strategy : UsageStrategy} {notes : List String}
    {setback : Setback} (failed : testOf setup input strategy notes = .error setback) :
    ¬ ∃ test, TestReady setup input strategy test := by
  rcases testOf_cases setup input strategy notes with
    ⟨_, -, notReady⟩ | ⟨test, noted, prepared, -⟩
  · exact notReady
  · cases failed.symm.trans prepared

/-- **Every measurement takes one of the courses**, so it always has a result: a test that is
ready has the dump that the locator asks for. -/
theorem exists_course (setup : Setup) (input : ModuleInput) (options : CoverageOptions) :
    ∃ result, measure setup input options = .ok result ∧ Course setup input options result := by
  rw [measure]
  by_cases skips : Skips setup input options
  · obtain ⟨missing, skipping⟩ := skips
    exact ⟨_, if_pos (by simp [missing, skipping]), .skipped ⟨missing, skipping⟩⟩
  · have goesOn : ¬ (!setup.files.isFile input.testPath && options.skipMissingTests) = true := by
      simpa [Skips] using skips
    rw [if_neg goesOn]
    cases exports : sourceOf setup input.modulePath [] >>=
      exportsOf setup input options.exports with
    | error setback => exact ⟨_, rfl, .noExports skips exports⟩
    | ok found =>
      dsimp only
      cases prepared : testOf setup input options.strategy found.notes with
      | error setback =>
        have course : Course setup input options _ := .noTest skips exports prepared
        dsimp only [testOf] at prepared
        rw [prepared]
        exact ⟨_, rfl, course⟩
      | ok ready =>
        obtain ⟨test, noted⟩ := ready
        obtain ⟨usages, located⟩ := (setup.locator options.strategy).exists_locate
          (testReady_of_testOf prepared).dump.isSome found.names
        have course : Course setup input options _ := .measured skips exports prepared located
        dsimp only [testOf] at prepared
        rw [prepared]
        dsimp only
        rw [located]
        exact ⟨_, rfl, course⟩

/-- **Every measurement has a result, and it ends in one of the three ways.** -/
theorem exists_measure (setup : Setup) (input : ModuleInput) (options : CoverageOptions) :
    ∃ result, measure setup input options = .ok result ∧ Ends setup input options result := by
  obtain ⟨result, measured, course⟩ := exists_course setup input options
  refine ⟨result, measured, ?_⟩
  cases course with
  | skipped skips => exact .skipped skips rfl rfl
  | noExports goesOn lacking =>
    refine .failed goesOn ?_ rfl rfl
    rintro ⟨found, test, exports, -⟩
    cases lacking.symm.trans exports
  | noTest goesOn exports lacking =>
    refine .failed goesOn ?_ rfl rfl
    rintro ⟨_, test, -, ready⟩
    exact not_testReady_of_testOf lacking ⟨test, ready⟩
  | measured goesOn exports prepared located =>
    exact .measured goesOn exports (testReady_of_testOf prepared) located rfl rfl

/-- A module whose exports are found and whose test is ready is measured. -/
theorem exists_measured {found : Exports} {test : TestInput}
    (goesOn : ¬ Skips setup input options) (exports : ExportsFound setup input options.exports found)
    (ready : TestReady setup input options.strategy test) :
    ∃ result, measure setup input options = .ok result ∧ result.status = .measured := by
  obtain ⟨result, measured, ends⟩ := exists_measure setup input options
  refine ⟨result, measured, ?_⟩
  cases ends with
  | skipped skips => exact absurd skips goesOn
  | failed _ lacking => exact absurd ⟨found, test, exports, ready⟩ lacking
  | measured _ _ _ _ status => exact status

/-! ## What is determined -/

theorem ExportsFound.unique {place : ExportsSource} {found other : Exports}
    (first : ExportsFound setup input place found) (second : ExportsFound setup input place other) :
    found = other :=
  Except.ok.inj (first.symm.trans second)

theorem TestDump.unique {strategy : UsageStrategy} {dump other : Option String}
    (first : TestDump setup input strategy dump) (second : TestDump setup input strategy other) :
    dump = other := by
  cases first with
  | fast =>
    cases second with
    | fast => rfl
  | tree produced =>
    cases second with
    | tree produced' => rw [Except.ok.inj (produced.symm.trans produced')]

/-- **There is one test to be made ready.** -/
theorem TestReady.unique {strategy : UsageStrategy} {test other : TestInput}
    (first : TestReady setup input strategy test) (second : TestReady setup input strategy other) :
    test = other := by
  have samePath := first.path.trans second.path.symm
  have sameSource := Except.ok.inj (first.readable.symm.trans second.readable)
  have sameDump := first.dump.unique second.dump
  cases test
  cases other
  simp_all

/-! ## The exports of a module that passes -/

variable {path : Path} {source dump : String}

theorem exportsFound_heuristic (conclusive : Conclusive setup path source dump) :
    ExportsFound setup (setup.pair path) .heuristic
      { names := statementNames setup.config.qualifier source, catalog := [], notes := [] } := by
  have readable : setup.files.readText (setup.pair path).modulePath = .ok source :=
    conclusive.readable
  rw [ExportsFound, sourceOf, readable]
  rfl

theorem exportsFound_dump (conclusive : Conclusive setup path source dump) :
    ExportsFound setup (setup.pair path) .dump
      { names := (setup.scanOf path dump).names
        catalog := (setup.scanOf path dump).symbols
        notes := [setup.dumps.describe path] } := by
  have readable : setup.files.readText (setup.pair path).modulePath = .ok source :=
    conclusive.readable
  have produced : setup.dumps.dump (setup.pair path).modulePath = .ok dump := conclusive.produced
  have hasNodes : ¬ (setup.scanOf path dump).isInconclusive = true := fun inconclusive =>
    Setup.isInconclusive_scanOf_iff.1 inconclusive conclusive.hasNode
  rw [ExportsFound, sourceOf, readable]
  change exportsOf setup (setup.pair path) .dump source = _
  rw [exportsOf, dumpOf, produced]
  exact if_neg hasNodes

/-- A module that passes has the same exports in its source and in its dump. -/
theorem exists_sameExports_of_passed
    (passed : (validateModule setup path false).status = .passed) :
    ∃ source dump, Conclusive setup path source dump ∧ SameExports setup path source dump := by
  rcases validateModule_cases setup path false with
    ⟨-, failed⟩ | ⟨source, dump, notes, conclusive, judged⟩
  · cases failed.status.symm.trans passed
  · refine ⟨source, dump, conclusive, Setup.isExact_comparison_iff.1 ?_⟩
    rw [judged, status_judge] at passed
    by_contra inexact
    simp [inexact] at passed

theorem SameExports.names_eq (same : SameExports setup path source dump) :
    statementNames setup.config.qualifier source = (setup.scanOf path dump).names :=
  NameSet.ext fun name => (same name).symm.trans mem_names_scanOf_iff.symm

/-- Two results that differ in the kinds of the report alone: those of the first are
unknown, and those of the second are all known. -/
structure SameButKinds (unkinded kinded : ModuleCoverage) : Prop where
  status : unkinded.status = kinded.status
  /-- There is a report for each, or for neither. -/
  reports : unkinded.report = kinded.report.map CoverageReport.withoutKinds
  measured : unkinded.status = .measured → unkinded.report.isSome = true
  kinds : ∀ report ∈ kinded.report, ∀ symbol ∈ report.symbols, symbol.kind.isSome = true

/-- **A module that passes its validation is measured from its source as it is from its
dump**, whatever the strategy, but for the kinds that only the dump knows. -/
theorem measure_heuristic_dump (setup : Setup) (path : Path)
    (passed : (validateModule setup path false).status = .passed) (strategy : UsageStrategy)
    (skipMissingTests : Bool) :
    ∃ fromSource fromDump,
      measure setup (setup.pair path) ⟨strategy, .heuristic, skipMissingTests⟩ = .ok fromSource ∧
      measure setup (setup.pair path) ⟨strategy, .dump, skipMissingTests⟩ = .ok fromDump ∧
      SameButKinds fromSource fromDump := by
  obtain ⟨source, dump, conclusive, same⟩ := exists_sameExports_of_passed passed
  have inSource := exportsFound_heuristic conclusive
  have inDump := exportsFound_dump conclusive
  obtain ⟨fromSource, measured, ends⟩ :=
    exists_measure setup (setup.pair path) ⟨strategy, .heuristic, skipMissingTests⟩
  obtain ⟨fromDump, measured', ends'⟩ :=
    exists_measure setup (setup.pair path) ⟨strategy, .dump, skipMissingTests⟩
  refine ⟨fromSource, fromDump, measured, measured', ?_⟩
  cases ends with
  | skipped skips status report =>
    cases ends' with
    | skipped _ status' report' =>
      exact ⟨by rw [status, status'], by rw [report, report']; rfl, by simp [status],
        by simp [report']⟩
    | failed goesOn' => exact absurd skips goesOn'
    | measured goesOn' => exact absurd skips goesOn'
  | failed goesOn lacking status report =>
    cases ends' with
    | skipped skips' => exact absurd skips' goesOn
    | failed _ _ status' report' =>
      exact ⟨by rw [status, status'], by rw [report, report']; rfl, by simp [status],
        by simp [report']⟩
    | measured _ _ ready' => exact absurd ⟨_, _, inSource, ready'⟩ lacking
  | measured goesOn exports ready located status report =>
    cases ends' with
    | skipped skips' => exact absurd skips' goesOn
    | failed _ lacking' => exact absurd ⟨_, _, inDump, ready⟩ lacking'
    | measured _ exports' ready' located' status' report' =>
      obtain rfl := exports.unique inSource
      obtain rfl := exports'.unique inDump
      obtain rfl := ready.unique ready'
      have sameUsages := located.symm.trans (same.names_eq ▸ located')
      cases sameUsages
      refine ⟨by rw [status, status'], ?_, by simp [report], ?_⟩
      · rw [report, report', Option.map_some, CoverageReport.withoutKinds_ofUsages]
      · intro kinded isReport
        rw [report', Option.mem_some_iff] at isReport
        rw [← isReport]
        refine CoverageReport.kind_isSome_of_mem fun name asked => ?_
        rw [Locator.map_fst_locate located', NameSet.mem_toList] at asked
        exact ExportScan.mem_names_iff.1 asked

/-! ## A module that passes -/

/-- A project of one module and its test, with a dump for each. -/
def oneModule : Setup where
  config := {}
  srcDir := ⟨"src"⟩
  testDir := ⟨"test"⟩
  files :=
    { readText := fun path =>
        if path.text = "src/f.cppm" then .ok "using std::go;" else .ok "int x = std::go();"
      present := fun _ => true
      isFile := fun _ => true
      isDirectory := fun _ => false
      children := fun _ => [] }
  dumps :=
    { describe := fun path => path.text
      dump := fun path =>
        if path.text = "src/f.cppm" then
          .ok ("ExportDecl 0x1 in f\n  NamespaceDecl 0x2 std\n" ++
            "    UsingDecl 0x3 <line:1:1> std::go\n" ++
            "    UsingShadowDecl 0x4 implicit Function 0x5 'go'")
        else .ok "CallExpr 0x1 <test_f.cpp:1:9>\n  DeclRefExpr 0x2 <col:9> Function 0x3 'go'"
      program? := none
      preflight := .ok () }

theorem passed_oneModule : (validateModule oneModule ⟨"src/f.cppm"⟩ false).status = .passed := by
  decide +kernel

theorem measure_oneModule :
    (validateModule oneModule ⟨"src/f.cppm"⟩ false).status = .passed ∧
      ∃ fromSource fromDump,
        measure oneModule (oneModule.pair ⟨"src/f.cppm"⟩) ⟨.tree, .heuristic, false⟩ =
            .ok fromSource ∧
          measure oneModule (oneModule.pair ⟨"src/f.cppm"⟩) ⟨.tree, .dump, false⟩ =
            .ok fromDump ∧
          SameButKinds fromSource fromDump :=
  ⟨passed_oneModule, measure_heuristic_dump oneModule _ passed_oneModule .tree false⟩

end ExportAudit.Analysis
