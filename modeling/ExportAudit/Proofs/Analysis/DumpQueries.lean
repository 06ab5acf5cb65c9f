import ExportAudit.Proofs.Analysis.Account

/-!
# Which dumps a measurement asks for

A measurement asks its source of dumps for two files at most.  It asks for the module's dump
if the exports come from there, and for the test's if the strategy walks it, provided that it
gets that far.  What the source would say about other files, and how it would say it, plays
no part: **two sources that treat those files alike give the same measurement.**

A file is consulted if another answer for it would change the measurement.  Asking is
consulting: whatever the source says, a failure in its place would be the end of the
measurement, and would be told in its one error.
-/

namespace ExportAudit.Source.DumpSource

set_option autoImplicit false

/-- Two sources treat a file alike. -/
def AgreeAt (source other : DumpSource) (path : Path) : Prop :=
  other.describe path = source.describe path ∧ other.dump path = source.dump path

/-- The source with another answer for the dump of one file. -/
def answering (source : DumpSource) (path : Path) (answer : Except ToolFailure String) :
    DumpSource :=
  { source with dump := Function.update source.dump path answer }

theorem dump_answering (source : DumpSource) (path : Path) (answer : Except ToolFailure String) :
    (source.answering path answer).dump path = answer :=
  Function.update_self ..

theorem agreeAt_answering (source : DumpSource) {path other : Path} (elsewhere : other ≠ path)
    (answer : Except ToolFailure String) : source.AgreeAt (source.answering path answer) other :=
  ⟨rfl, Function.update_of_ne elsewhere ..⟩

end ExportAudit.Source.DumpSource

namespace ExportAudit.Analysis

set_option autoImplicit false

open ExportAudit.Export ExportAudit.Source ExportAudit.Usage

variable {setup : Setup} {input : ModuleInput} {options : CoverageOptions} {path : Path}
  {other : DumpSource}

/-- The setup with another source of dumps. -/
def Setup.withDumps (setup : Setup) (dumps : DumpSource) : Setup :=
  { setup with dumps }

/-! ## What is asked for -/

/-- A measurement asks for the dump of a file. -/
inductive Asks (setup : Setup) (input : ModuleInput) (options : CoverageOptions) : Path → Prop where
  /-- The exports are to come from the dump of a module that can be read. -/
  | moduleDump {source : String} (goesOn : ¬ Skips setup input options)
      (readable : setup.files.readText input.modulePath = .ok source)
      (fromDump : options.exports = .dump) : Asks setup input options input.modulePath
  /-- The exports are found, and a test that can be read is to be walked. -/
  | testDump {found : Exports} {source : String} (goesOn : ¬ Skips setup input options)
      (exports : ExportsFound setup input options.exports found)
      (readable : setup.files.readText input.testPath = .ok source)
      (walks : options.strategy = .tree) : Asks setup input options input.testPath

/-- The source of an export is read before anything else. -/
theorem ExportsFound.readable {place : ExportsSource} {found : Exports}
    (exports : ExportsFound setup input place found) :
    ∃ source, setup.files.readText input.modulePath = .ok source := by
  rw [ExportsFound, sourceOf] at exports
  cases readable : setup.files.readText input.modulePath with
  | ok source => exact ⟨source, rfl⟩
  | error error =>
    rw [readable] at exports
    cases exports

/-- Finding the exports looks at the dump of the module alone, and only if they are to come
from there. -/
theorem exports_withDumps (setup : Setup) (input : ModuleInput) (place : ExportsSource)
    (agree : ∀ source, setup.files.readText input.modulePath = .ok source → place = .dump →
      setup.dumps.AgreeAt other input.modulePath) :
    sourceOf (setup.withDumps other) input.modulePath [] >>=
        exportsOf (setup.withDumps other) input place =
      sourceOf setup input.modulePath [] >>= exportsOf setup input place := by
  have sameSource : sourceOf (setup.withDumps other) input.modulePath [] =
      sourceOf setup input.modulePath [] := rfl
  rw [sameSource, sourceOf]
  cases readable : setup.files.readText input.modulePath with
  | error error => rfl
  | ok source =>
    cases place with
    | heuristic => rfl
    | dump =>
      obtain ⟨sameNote, sameDump⟩ := agree source readable rfl
      have same : dumpOf (setup.withDumps other) input.modulePath [] =
          dumpOf setup input.modulePath [] := by
        simp only [dumpOf, Setup.withDumps, sameNote, sameDump]
      change exportsOf (setup.withDumps other) input .dump source = exportsOf setup input .dump source
      rw [exportsOf, exportsOf, same]
      rfl

/-- Making the test ready looks at the dump of the test alone, and only if it is to be
walked. -/
theorem testOf_withDumps (setup : Setup) (input : ModuleInput) (strategy : UsageStrategy)
    (notes : List String)
    (agree : ∀ source, setup.files.readText input.testPath = .ok source → strategy = .tree →
      setup.dumps.AgreeAt other input.testPath) :
    testOf (setup.withDumps other) input strategy notes = testOf setup input strategy notes := by
  have sameSource : sourceOf (setup.withDumps other) input.testPath notes =
      sourceOf setup input.testPath notes := rfl
  rw [testOf, testOf, sameSource, sourceOf]
  cases readable : setup.files.readText input.testPath with
  | error error => rfl
  | ok source =>
    cases strategy with
    | fast => rfl
    | tree =>
      obtain ⟨sameNote, sameDump⟩ := agree source readable rfl
      have same : dumpOf (setup.withDumps other) input.testPath notes =
          dumpOf setup input.testPath notes := by
        simp only [dumpOf, Setup.withDumps, sameNote, sameDump]
      have sameTest : testDumpOf (setup.withDumps other) input
          ((setup.withDumps other).locator .tree) notes =
            testDumpOf setup input (setup.locator .tree) notes := by
        simp only [testDumpOf, same]
        rfl
      rw [sameTest]

/-- **A measurement depends on its source of dumps only through the files that it asks
for.** -/
theorem measure_withDumps
    (agree : ∀ path, Asks setup input options path → setup.dumps.AgreeAt other path) :
    measure (setup.withDumps other) input options = measure setup input options := by
  rw [measure, measure]
  by_cases skips : Skips setup input options
  · have stops : (!setup.files.isFile input.testPath && options.skipMissingTests) = true := by
      simp [skips.1, skips.2]
    rw [if_pos stops]
    exact if_pos stops
  · have goesOn : ¬ (!setup.files.isFile input.testPath && options.skipMissingTests) = true := by
      simpa [Skips] using skips
    rw [if_neg goesOn]
    refine (if_neg goesOn).trans ?_
    rw [exports_withDumps setup input options.exports fun source readable fromDump =>
      agree _ (.moduleDump skips readable fromDump)]
    cases exports : sourceOf setup input.modulePath [] >>=
      exportsOf setup input options.exports with
    | error setback => rfl
    | ok found =>
      have sameTest := testOf_withDumps setup input options.strategy found.notes
        fun source readable walks => agree _ (.testDump skips exports readable walks)
      dsimp only [testOf] at sameTest
      dsimp only
      rw [sameTest]
      rfl

/-! ## What is consulted -/

/-- A measurement consults the dump of a file: with another answer for it, the measurement
would come out differently. -/
def Consults (setup : Setup) (input : ModuleInput) (options : CoverageOptions) (path : Path) :
    Prop :=
  ∃ answer, measure (setup.withDumps (setup.dumps.answering path answer)) input options ≠
    measure setup input options

/-- A result ends in the failure of a tool on a file. -/
def ToolFails (path : Path) (failure : ToolFailure) (result : ModuleCoverage) : Prop :=
  ∃ others, result.issues = others ++ [{ path := path.text, finding := .toolFailure failure }]

theorem ToolFails.unique {failure failure' : ToolFailure} {result : ModuleCoverage}
    (first : ToolFails path failure result) (second : ToolFails path failure' result) :
    failure = failure' := by
  obtain ⟨others, isList⟩ := first
  obtain ⟨others', isList'⟩ := second
  have sameLast := congrArg List.getLast? (isList.symm.trans isList')
  rw [List.getLast?_concat, List.getLast?_concat] at sameLast
  cases sameLast
  rfl

/-- **What is lacking of a module ends its measurement.** -/
theorem exists_measure_of_module {issue : Issue} (goesOn : ¬ Skips setup input options)
    (lacking : Lacking setup input.modulePath (options.exports = .dump) issue) :
    ∃ result, measure setup input options = .ok result ∧
      ∃ others, result.issues = others ++ [issue] := by
  obtain ⟨setback, failed, rfl⟩ := exists_setback_of_module lacking
  obtain ⟨result, measured, course⟩ := exists_course setup input options
  refine ⟨result, measured, ?_⟩
  cases course with
  | skipped skips => exact absurd skips goesOn
  | noExports _ failed' =>
    cases failed.symm.trans failed'
    exact ⟨[], rfl⟩
  | noTest _ exports _ => cases failed.symm.trans exports
  | measured _ exports _ _ => cases failed.symm.trans exports

/-- **What is lacking of a test ends the measurement**, if the exports are found. -/
theorem exists_measure_of_test {found : Exports} {issue : Issue}
    (goesOn : ¬ Skips setup input options)
    (exports : ExportsFound setup input options.exports found)
    (lacking : Lacking setup input.testPath (options.strategy = .tree) issue) :
    ∃ result, measure setup input options = .ok result ∧
      ∃ others, result.issues = others ++ [issue] := by
  obtain ⟨setback, failed, rfl⟩ := exists_setback_of_test lacking found.notes
  obtain ⟨result, measured, course⟩ := exists_course setup input options
  refine ⟨result, measured, ?_⟩
  cases course with
  | skipped skips => exact absurd skips goesOn
  | noExports _ lacking' => cases lacking'.symm.trans exports
  | noTest _ exports' failed' =>
    obtain rfl := exports.unique exports'
    cases failed.symm.trans failed'
    exact ⟨_, rfl⟩
  | measured _ exports' prepared _ =>
    obtain rfl := exports.unique exports'
    cases failed.symm.trans prepared

/-- **A failure of the source on a file that is asked for ends the measurement.** -/
theorem Asks.toolFails (asks : Asks setup input options path) (failure : ToolFailure) :
    ∃ result,
      measure (setup.withDumps (setup.dumps.answering path (.error failure))) input options =
        .ok result ∧ ToolFails path failure result := by
  cases asks with
  | moduleDump goesOn readable fromDump =>
    exact exists_measure_of_module goesOn
      (.noDump fromDump readable (DumpSource.dump_answering ..))
  | testDump goesOn exports readable walks =>
    -- the test may be the module itself, and then it is for its exports that its dump is asked
    by_cases same : options.exports = .dump ∧ input.modulePath = input.testPath
    · obtain ⟨source, moduleReadable⟩ := exports.readable
      rw [← same.2]
      exact exists_measure_of_module goesOn
        (.noDump same.1 moduleReadable (DumpSource.dump_answering ..))
    · have stillFound := (exports_withDumps setup input options.exports
        fun _ _ fromDump => setup.dumps.agreeAt_answering (fun isTest => same ⟨fromDump, isTest⟩)
          (.error failure)).trans exports
      exact exists_measure_of_test goesOn stillFound
        (.noDump walks readable (DumpSource.dump_answering ..))

/-- **A measurement consults the dumps that it asks for, and no others.** -/
theorem consults_iff_asks :
    Consults setup input options path ↔ Asks setup input options path := by
  constructor
  · rintro ⟨answer, differs⟩
    by_contra unasked
    refine differs (measure_withDumps fun asked asks => setup.dumps.agreeAt_answering ?_ answer)
    rintro rfl
    exact unasked asks
  · intro asks
    by_contra unconsulted
    have alike (failure : ToolFailure) : ∃ result, measure setup input options = .ok result ∧
        ToolFails path failure result := by
      obtain ⟨result, measured, fails⟩ := asks.toolFails failure
      by_cases same : measure (setup.withDumps
          (setup.dumps.answering path (.error failure))) input options =
            measure setup input options
      · exact ⟨result, same.symm.trans measured, fails⟩
      · exact absurd ⟨_, same⟩ unconsulted
    -- one result cannot end in two failures
    obtain ⟨result, measured, fails⟩ := alike (.notFound "")
    obtain ⟨result', measured', fails'⟩ := alike (.emptyOutput "")
    cases measured.symm.trans measured'
    cases fails.unique fails'

/-! ## Whether any dump is needed -/

theorem CoverageOptions.needsDumps_iff :
    options.needsDumps = true ↔ options.strategy = .tree ∨ options.exports = .dump := by
  simp [CoverageOptions.needsDumps]

/-- A measurement that needs no dumps asks for none. -/
theorem Asks.needsDumps (asks : Asks setup input options path) : options.needsDumps = true := by
  cases asks with
  | moduleDump _ _ fromDump => exact CoverageOptions.needsDumps_iff.2 (.inr fromDump)
  | testDump _ _ _ walks => exact CoverageOptions.needsDumps_iff.2 (.inl walks)

/-- A module and its test can be read, and the module is not skipped. -/
structure Proceeds (setup : Setup) (input : ModuleInput) (options : CoverageOptions) : Prop where
  goesOn : ¬ Skips setup input options
  moduleReadable : ∃ source, setup.files.readText input.modulePath = .ok source
  testReadable : ∃ source, setup.files.readText input.testPath = .ok source

/-- **A measurement that needs dumps asks for one**, for the module's if the exports come from
there, and else for the test's. -/
theorem Proceeds.exists_asks (proceeds : Proceeds setup input options)
    (needsDumps : options.needsDumps = true) : ∃ path, Asks setup input options path := by
  obtain ⟨source, moduleReadable⟩ := proceeds.moduleReadable
  obtain ⟨testSource, testReadable⟩ := proceeds.testReadable
  cases fromWhere : options.exports with
  | dump => exact ⟨_, .moduleDump proceeds.goesOn moduleReadable fromWhere⟩
  | heuristic =>
    have walks : options.strategy = .tree := by
      rcases CoverageOptions.needsDumps_iff.1 needsDumps with walks | fromDump
      · exact walks
      · cases fromWhere.symm.trans fromDump
    have exports : ExportsFound setup input options.exports
        { names := statementNames setup.config.qualifier source, catalog := [], notes := [] } := by
      rw [ExportsFound, sourceOf, moduleReadable, fromWhere]
      rfl
    exact ⟨_, .testDump proceeds.goesOn exports testReadable walks⟩

/-- **Without a need for dumps every source of dumps gives the same results.** -/
theorem measureAll_withDumps (noNeed : options.needsDumps = false) (setup : Setup)
    (inputs : List ModuleInput) (other : DumpSource) :
    measureAll (setup.withDumps other) inputs options = measureAll setup inputs options := by
  have same (input : ModuleInput) :
      measure (setup.withDumps other) input options = measure setup input options := by
    refine measure_withDumps fun path asks => ?_
    cases noNeed.symm.trans asks.needsDumps
  simp only [measureAll, same]

/-- Some measurement comes out differently with another source of dumps. -/
def DumpsMatter (options : CoverageOptions) : Prop :=
  ∃ setup inputs other,
    measureAll (Setup.withDumps setup other) inputs options ≠ measureAll setup inputs options

theorem measureAll_singleton (setup : Setup) (input : ModuleInput) (options : CoverageOptions) :
    measureAll setup [input] options = (measure setup input options).map fun result => [result] := by
  rw [measureAll, List.mapM_cons, List.mapM_nil]
  cases measure setup input options <;> rfl

/-- Where a dump is consulted, dumps matter. -/
theorem dumpsMatter_of_consults {setup : Setup} {input : ModuleInput} {options : CoverageOptions}
    {path : Path} (consults : Consults setup input options path) : DumpsMatter options := by
  obtain ⟨answer, differs⟩ := consults
  refine ⟨setup, [input], setup.dumps.answering path answer, fun same => differs ?_⟩
  rw [measureAll_singleton, measureAll_singleton] at same
  obtain ⟨result, measured, -⟩ := exists_course setup input options
  obtain ⟨result', measured', -⟩ :=
    exists_course (setup.withDumps (setup.dumps.answering path answer)) input options
  rw [measured, measured'] at same ⊢
  cases same
  rfl

/-- The one module of the project and its test can be read. -/
theorem proceeds_oneModule (options : CoverageOptions) :
    Proceeds oneModule (oneModule.pair ⟨"src/f.cppm"⟩) options where
  goesOn := fun skips => Bool.noConfusion skips.1
  moduleReadable := ⟨"using std::go;", by decide⟩
  testReadable := ⟨"int x = std::go();", by decide +kernel⟩

theorem dumpsMatter_iff {options : CoverageOptions} :
    DumpsMatter options ↔ options.needsDumps = true := by
  constructor
  · rintro ⟨setup, inputs, other, differs⟩
    by_contra noNeed
    exact differs (measureAll_withDumps (Bool.eq_false_iff.2 noNeed) setup inputs other)
  · intro needsDumps
    obtain ⟨path, asks⟩ := (proceeds_oneModule options).exists_asks needsDumps
    exact dumpsMatter_of_consults (consults_iff_asks.2 asks)

end ExportAudit.Analysis
