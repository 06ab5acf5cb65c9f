import ExportAudit.Analysis.Validation
import ExportAudit.Usage.CoverageReport

/-!
# Measuring coverage

Coverage relates a module's exports to the usages in its test.  The exports come from
the module's source or from its dump, the usages from either strategy.  A module whose
test file does not exist is skipped if its test was only assumed; otherwise anything
that is missing makes it fail, with one issue that says what.

The totals count the modules of each kind and **add up the measured ones alone.**
-/

namespace ExportAudit.Analysis

set_option autoImplicit false

open ExportAudit.Export ExportAudit.Source ExportAudit.Usage ExportAudit.Dump

/-- Where a module's exports come from. -/
inductive ExportsSource where
  | heuristic
  | dump
  deriving DecidableEq, Repr

/-- The name of a source of exports. -/
def ExportsSource.label : ExportsSource → String
  | .heuristic => "heuristic"
  | .dump => "dump"

/-- How coverage is measured. -/
structure CoverageOptions where
  strategy : UsageStrategy
  exports : ExportsSource
  /-- A missing test file skips its module. -/
  skipMissingTests : Bool
  deriving DecidableEq, Repr

/-- Some dump is read. -/
def CoverageOptions.needsDumps (options : CoverageOptions) : Bool :=
  options.strategy == .tree || options.exports == .dump

/-- What became of a module. -/
inductive CoverageStatus where
  | measured
  | skipped
  | failed
  deriving DecidableEq, Repr

/-- The name of what became of a module. -/
def CoverageStatus.label : CoverageStatus → String
  | .measured => "measured"
  | .skipped => "skipped"
  | .failed => "failed"

/-- The result for one module. -/
structure ModuleCoverage where
  moduleName : String
  path : Path
  testPath : Path
  status : CoverageStatus
  report : Option CoverageReport := none
  issues : List Issue := []
  notes : List String := []
  deriving DecidableEq, Repr

/-! ## The steps of a measurement -/

/-- What a step that fails leaves behind: its issue, and the notes taken before. -/
structure Setback where
  issue : Issue
  notes : List String

/-- The exports of a module: their names, the catalog if there is one, and the notes
taken. -/
structure Exports where
  names : NameSet
  catalog : List Symbol
  notes : List String

/-- The dump of a file, with the note on how it was produced. -/
def dumpOf (setup : Setup) (path : Path) (notes : List String) :
    Except Setback (String × List String) :=
  let noted := notes ++ [setup.dumps.describe path]
  match setup.dumps.dump path with
  | .ok dump => .ok (dump, noted)
  | .error failure =>
    .error { issue := { path := path.text, finding := .toolFailure failure }, notes := noted }

/-- The text of a file. -/
def sourceOf (setup : Setup) (path : Path) (notes : List String) : Except Setback String :=
  match setup.files.readText path with
  | .ok text => .ok text
  | .error error =>
    .error { issue := { path := path.text, finding := .fileNotFound error.message }, notes }

/-- Finds the exports of a module. -/
def exportsOf (setup : Setup) (input : ModuleInput) (from_ : ExportsSource) (source : String) :
    Except Setback Exports :=
  match from_ with
  | .heuristic =>
    .ok { names := statementNames setup.config.qualifier source, catalog := [], notes := [] }
  | .dump => do
    let (dump, notes) ← dumpOf setup input.modulePath []
    let scan := scanExports dump (setup.scanOptions input.name)
    if scan.isInconclusive then
      .error { issue := inconclusiveIssue input.modulePath dump, notes }
    else .ok { names := scan.names, catalog := scan.symbols, notes }

/-- The dump of the test, if the strategy reads one. -/
def testDumpOf (setup : Setup) (input : ModuleInput) (locator : Locator) (notes : List String) :
    Except Setback (Option String × List String) :=
  if locator.needsDump then do
    let (dump, notes) ← dumpOf setup input.testPath notes
    if (parseDump dump).any Line.isNode then .ok (some dump, notes)
    else .error { issue := inconclusiveIssue input.testPath dump, notes }
  else .ok (none, notes)

/-- The extractor that a source of exports stands for. -/
def ExportsSource.extractor : ExportsSource → Extractor
  | .heuristic => .heuristic
  | .dump => .dump

/-- The note on a report. -/
def reportNote (options : CoverageOptions) (report : CoverageReport) : String :=
  s!"{report.used} of {report.total} exports used " ++
    s!"({options.strategy.label} strategy, {options.exports.label} exports)"

/-! ## One module -/

/-- Measures the coverage of one module. -/
def measure (setup : Setup) (input : ModuleInput) (options : CoverageOptions) :
    Except LocateError ModuleCoverage :=
  let result (status : CoverageStatus) (issues : List Issue) (notes : List String)
      (report : Option CoverageReport) : ModuleCoverage :=
    { moduleName := input.name
      path := input.modulePath
      testPath := input.testPath
      status, report, issues, notes }
  let failed (warnings : List Issue) (setback : Setback) : ModuleCoverage :=
    result .failed (warnings ++ [setback.issue]) setback.notes none
  if !setup.files.isFile input.testPath && options.skipMissingTests then
    .ok (result .skipped
      [{ path := input.modulePath.text, finding := .noTestFile input.testPath.text }] [] none)
  else
    match sourceOf setup input.modulePath [] >>= exportsOf setup input options.exports with
    | .error setback => .ok (failed [] setback)
    | .ok found =>
      let warnings : List Issue :=
        if found.names.isEmpty then
          [{ path := input.modulePath.text
             finding := .emptyExtraction options.exports.extractor }]
        else []
      let locator := setup.locator options.strategy
      let prepared := do
        let source ← sourceOf setup input.testPath found.notes
        let (dump, notes) ← testDumpOf setup input locator found.notes
        .ok (({ path := input.testPath, source, dump } : TestInput), notes)
      match prepared with
      | .error setback => .ok (failed warnings setback)
      | .ok (test, notes) => do
        let usages ← locator.locate found.names test
        let report := CoverageReport.ofUsages usages found.catalog
        .ok (result .measured warnings (notes ++ [reportNote options report]) (some report))

/-- Measures the coverage of modules, in order. -/
def measureAll (setup : Setup) (inputs : List ModuleInput) (options : CoverageOptions) :
    Except LocateError (List ModuleCoverage) :=
  inputs.mapM fun input => measure setup input options

/-! ## Totals -/

/-- The totals over some modules. -/
structure CoverageTotals where
  measured : Nat
  skipped : Nat
  failed : Nat
  used : Nat
  total : Nat
  /-- Absent when no measured module has exports. -/
  ratio : Option Fraction
  deriving DecidableEq, Repr

/-- Adds up the modules. -/
def CoverageTotals.ofModules (modules : List ModuleCoverage) : CoverageTotals :=
  let counted (status : CoverageStatus) : Nat := modules.countP (·.status == status)
  let reports := modules.filterMap (·.report)
  let used := (reports.map (·.used)).foldr (· + ·) 0
  let total := (reports.map (·.total)).foldr (· + ·) 0
  { measured := counted .measured
    skipped := counted .skipped
    failed := counted .failed
    used
    total
    ratio := coverageRatio used total }

end ExportAudit.Analysis
