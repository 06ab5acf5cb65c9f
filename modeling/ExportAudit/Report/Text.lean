import ExportAudit.Decimal.Percent
import ExportAudit.Report.Outcome
import ExportAudit.Report.Style
import ExportAudit.Text.Columns
import ExportAudit.Text.Plural

/-!
# Reports as text

A report goes through the modules in order.  Each has a heading, perhaps a table of
its symbols, and its issues in their order; totals and the count of problems close the
report.  Columns are aligned by a width of texts that the terminal gives.  Of the sites
that use a symbol a few are shown, and the last one shown tells how many are not.

A report is a list of lines, **each of which ends in a newline.**
-/

namespace ExportAudit.Report

set_option autoImplicit false

open ExportAudit.Text ExportAudit.Analysis ExportAudit.Usage ExportAudit.Export

/-! ## Marks -/

/-- The mark of success. -/
def successMark : String := "\u2713"

/-- The mark of failure. -/
def failureMark : String := "\u2718"

/-- The mark of a module that was skipped. -/
def skippedMark : String := "-"

/-- The painted mark of a verdict. -/
def markOf (style : OutputStyle) (good : Bool) : String :=
  if good then style.paint .green successMark else style.paint .red failureMark

/-! ## Issues -/

/-- The painted name of a severity. -/
def severityText (style : OutputStyle) : Severity → String
  | .error => style.paint .boldRed "error"
  | .warning => style.paint .boldYellow "warning"

/-- The lines of one issue. -/
def issueLines (style : OutputStyle) (issue : Issue) : List String :=
  let equals := style.paint .blue "="
  let arrow := style.paint .blue "-->"
  let severity := severityText style issue.severity
  let rule := style.paint .dimmedCyan issue.rule.label
  let note := style.paint .bold "note:"
  let hint := style.paint .boldCyan "hint:"
  [s!"{severity}: {issue.message}  {rule}", s!"  {arrow} {issue.path}"] ++
    issue.details.map (fun detail => s!"  {equals} {note} {detail}") ++
    issue.hint?.toList.map fun text => s!"  {equals} {hint} {text}"

/-- The lines of some issues, in their order. -/
def issuesLines (style : OutputStyle) (issues : List Issue) : List String :=
  (Issue.sorted issues).flatMap (issueLines style)

/-- The line that counts the problems, if there are any. -/
def problemLines (style : OutputStyle) (outcome : Outcome) : List String :=
  let problems := outcome.errorCount + outcome.warningCount
  if problems = 0 then []
  else
    let mark := style.paint .red failureMark
    let errors := style.paint .red (if outcome.errorCount = 1 then "error" else "errors")
    let warnings :=
      style.paint .yellow (if outcome.warningCount = 1 then "warning" else "warnings")
    [s!"{mark} {problems} problems ({outcome.errorCount} {errors}, " ++
      s!"{outcome.warningCount} {warnings})"]

/-! ## Validation -/

/-- The heading of a module. -/
def validationHeading (style : OutputStyle) (result : ModuleValidation) : String :=
  let title := style.paint .bold s!"{result.moduleName} ({result.path.text})"
  let exports := pluralize result.symbols.length "export"
  match result.status with
  | .passed | .mismatch =>
    let percent := match result.reconciliation with
      | some comparison => Decimal.renderPercent comparison.matchRatio
      | none => ""
    s!"{markOf style (result.status == .passed)} {title}: {exports}, {percent} match"
  | .listed => s!"{title}: {exports}"
  | .failed => s!"{markOf style false} {title}: failed"

/-- The table of a catalog. -/
def symbolLines (width : Width) (symbols : List Symbol) : List String :=
  let nameWidth := columnWidth width (symbols.map (·.name))
  let kindWidth := columnWidth width (symbols.map (·.kind.label))
  symbols.map fun symbol =>
    let line := match symbol.line with
      | some number => toString number
      | none => "?"
    let name := pad width symbol.name nameWidth
    let kind := pad width symbol.kind.label kindWidth
    s!"    {name}  {kind}  {line}"

/-- The lines of one module. -/
def validationLines (width : Width) (style : OutputStyle) (withTable : Bool)
    (result : ModuleValidation) : List String :=
  [validationHeading style result] ++
    (if withTable then symbolLines width result.symbols else []) ++
    issuesLines style result.issues

/-- The lines of a validation. -/
def validateLines (width : Width) (style : OutputStyle) (summary : ValidateSummary) :
    List String :=
  let modules := pluralize summary.modules.length "module"
  let symbols := (summary.modules.map (·.symbols.length)).foldr (· + ·) 0
  let exports := pluralize symbols "export"
  let failed := summary.failedCount
  summary.modules.flatMap (validationLines width style (summary.listOnly || style.verbose)) ++
    (if summary.listOnly then ["", s!"Listed {exports} in {modules}"] else []) ++
    if 0 < failed then
      let text := style.paint .red s!"{failed} of {modules} failed validation"
      ["", s!"{markOf style false} {text}"]
    else if !summary.listOnly then
      let text := style.paint .green s!"Validated {modules} - all exports match"
      ["", s!"{markOf style true} {text}"]
    else []

/-! ## Coverage -/

/-- The greatest number of sites shown for a symbol. -/
def maxSites : Nat := 3

/-- The lines of the sites that use a symbol. -/
def siteLines (style : OutputStyle) (records : List UsageRecord) : List String :=
  let shown := records.take maxSites
  let remaining := records.length - shown.length
  let more := if 0 < remaining then s!" (and {remaining} more)" else ""
  shown.zipIdx.map fun (record, place) =>
    let kind := style.paint .cyan record.kind.label
    let tail := if place + 1 = shown.length then more else ""
    s!"      {kind} line {record.line}: {record.context}{tail}"

/-- The name of a symbol's kind, if it is known. -/
def kindText (symbol : CoveredSymbol) : String :=
  match symbol.kind with
  | some kind => kind.label
  | none => ""

/-- The lines of a table of exports with their usages. -/
def coveredLines (width : Width) (style : OutputStyle) (symbols : List CoveredSymbol) :
    List String :=
  let nameWidth := columnWidth width (symbols.map (·.name))
  let kindWidth := columnWidth width (symbols.map kindText)
  symbols.flatMap fun symbol =>
    let kind := if 0 < kindWidth then pad width (kindText symbol) kindWidth ++ "  " else ""
    let name := pad width symbol.name nameWidth
    let uses := pluralize symbol.count "use"
    s!"  {markOf style symbol.isUsed} {name}  {kind}{uses}" :: siteLines style symbol.records

/-- The lines of one module. -/
def moduleCoverageLines (width : Width) (style : OutputStyle) (result : ModuleCoverage) :
    List String :=
  let title := style.paint .bold
    s!"{result.moduleName} ({result.path.text} -> {result.testPath.text})"
  let body := match result.status, result.report with
    | .measured, some report =>
      let heading := match report.ratio with
        | some ratio =>
          let percent := Decimal.renderPercent ratio
          s!"{title}: {report.used}/{report.total} exports used ({percent})"
        | none => s!"{title}: no exports"
      heading :: coveredLines width style report.symbols
    | .skipped, _ =>
      let mark := style.paint .dimmed skippedMark
      [s!"{mark} {style.paint .bold result.moduleName}: skipped"]
    | _, _ => [s!"{markOf style false} {title}: failed"]
  body ++ issuesLines style result.issues

/-- The line of totals. -/
def totalsText (totals : CoverageTotals) : String :=
  let modules := pluralize totals.measured "module"
  let measured := match totals.ratio with
    | some ratio =>
      let percent := Decimal.renderPercent ratio
      s!"Overall: {totals.used}/{totals.total} exports used ({percent}) across {modules}"
    | none => s!"Overall: no exports across {modules}"
  let skipped := if 0 < totals.skipped then s!", {totals.skipped} skipped" else ""
  let failed := if 0 < totals.failed then s!", {totals.failed} failed" else ""
  measured ++ skipped ++ failed

/-- The lines of a measurement. -/
def coverageLines (width : Width) (style : OutputStyle) (summary : CoverageSummary) :
    List String :=
  summary.modules.flatMap (moduleCoverageLines width style) ++
    ["", style.paint .bold (totalsText summary.totals)]

/-! ## Notes and initialisation -/

/-- The lines of one module's notes. -/
def noteLines (style : OutputStyle) (moduleName : String) (notes : List String) : List String :=
  let label := style.paint .bold "note:"
  notes.map fun note => s!"{label} [{moduleName}] {note}"

/-- The lines of all notes. -/
def notesLines (style : OutputStyle) : Summary → List String
  | .validate summary => summary.modules.flatMap fun m => noteLines style m.moduleName m.notes
  | .coverage summary => summary.modules.flatMap fun m => noteLines style m.moduleName m.notes
  | .init _ => []

/-- The line of an initialisation that created its file. -/
def createdLine (style : OutputStyle) (path : Path) : String :=
  let text := style.paint .green s!"Created {path.text}"
  s!"{markOf style true} {text}"

end ExportAudit.Report
