import ExportAudit.Report.Outcome

/-!
# Reports as JSON

The same results in a form for programs: the modules in order, each with its verdict,
what was found and its issues, and a summary.  Notes are left out, and so are members
that do not apply.
-/

namespace ExportAudit.Report

set_option autoImplicit false

open ExportAudit.Analysis ExportAudit.Usage ExportAudit.Export

/-- A set of names. -/
def namesJson (names : NameSet) : Json :=
  .ofStrings names.toList

/-- A symbol of a catalog. -/
def symbolJson (symbol : Symbol) : Json :=
  .object [
    ("name", .string symbol.name),
    ("kind", .string symbol.kind.label),
    ("line", .ofOption .ofNat symbol.line)]

/-- A comparison of two sets of exports. -/
def reconciliationJson (comparison : Reconciliation) : Json :=
  .object [
    ("authoritative", namesJson comparison.authoritative),
    ("heuristic", namesJson comparison.heuristic),
    ("both", namesJson comparison.both),
    ("only_authoritative", namesJson comparison.onlyAuthoritative),
    ("only_heuristic", namesJson comparison.onlyHeuristic),
    ("match_ratio", .ofFraction comparison.matchRatio)]

/-- The result of validating a module. -/
def validationJson (result : ModuleValidation) : Json :=
  .object ([
    ("module", .string result.moduleName),
    ("path", .string result.path.text),
    ("status", .string result.status.label),
    ("symbols", .array (result.symbols.map symbolJson))] ++
    Json.optionalMember "heuristic" namesJson result.heuristic ++
    Json.optionalMember "reconciliation" reconciliationJson result.reconciliation ++
    [("issues", .array (result.issues.map Issue.toJson))])

/-- A site that uses a symbol. -/
def recordJson (record : UsageRecord) : Json :=
  .object [
    ("symbol", .string record.symbol),
    ("kind", .string record.kind.label),
    ("line", .ofNat record.line),
    ("context", .string record.context)]

/-- An export with its usages. -/
def coveredJson (symbol : CoveredSymbol) : Json :=
  .object ([("name", .string symbol.name)] ++
    Json.optionalMember "kind" (fun kind => .string kind.label) symbol.kind ++
    [("count", .ofNat symbol.count)] ++
    if symbol.records.isEmpty then []
    else [("records", .array (symbol.records.map recordJson))])

/-- The coverage of one module's exports. -/
def coverageReportJson (report : CoverageReport) : Json :=
  .object [
    ("symbols", .array (report.symbols.map coveredJson)),
    ("used", .ofNat report.used),
    ("total", .ofNat report.total),
    ("ratio", .ofOption .ofFraction report.ratio)]

/-- The result of measuring a module. -/
def moduleCoverageJson (result : ModuleCoverage) : Json :=
  .object ([
    ("module", .string result.moduleName),
    ("path", .string result.path.text),
    ("test_path", .string result.testPath.text),
    ("status", .string result.status.label)] ++
    Json.optionalMember "report" coverageReportJson result.report ++
    [("issues", .array (result.issues.map Issue.toJson))])

/-- The totals of a measurement. -/
def totalsJson (totals : CoverageTotals) : Json :=
  .object [
    ("measured", .ofNat totals.measured),
    ("skipped", .ofNat totals.skipped),
    ("failed", .ofNat totals.failed),
    ("used", .ofNat totals.used),
    ("total", .ofNat totals.total),
    ("ratio", .ofOption .ofFraction totals.ratio)]

/-- The report of a summary. -/
def Summary.toJson : Summary → Json
  | .validate summary =>
    .object [
      ("command", .string "validate"),
      ("listOnly", .bool summary.listOnly),
      ("modules", .array (summary.modules.map validationJson)),
      ("summary", .object [
        ("modules", .ofNat summary.modules.length),
        ("failed", .ofNat summary.failedCount)])]
  | .coverage summary =>
    .object [
      ("command", .string "coverage"),
      ("strategy", .string summary.strategy.label),
      ("exports", .string summary.exports.label),
      ("modules", .array (summary.modules.map moduleCoverageJson)),
      ("summary", totalsJson summary.totals)]
  | .init summary =>
    .object [
      ("command", .string "init"),
      ("path", .string summary.path.text),
      ("error", .ofOption .string summary.error)]

end ExportAudit.Report
