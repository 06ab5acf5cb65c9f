import ExportAudit.Analysis.Setup
import ExportAudit.Export.Statement
import ExportAudit.Issue
import ExportAudit.Reconciliation

/-!
# Validating modules

A module is validated by finding its exports twice, in its dump and in its source,
and reconciling the two sets.  The verdict is one of four.  A module whose source or
dump is not to be had, or whose dump has no nodes, has failed.  A module that is only
to be listed is listed.  The others have passed if the sets agree and are a mismatch
if they do not.

Each module is judged alone, and **what went wrong with it becomes an issue of its
own result.**
-/

namespace ExportAudit.Analysis

set_option autoImplicit false

open ExportAudit.Text ExportAudit.Export ExportAudit.Source

/-- The verdict on a module. -/
inductive ValidationStatus where
  /-- Both sets agree. -/
  | passed
  /-- The catalog was listed without a comparison. -/
  | listed
  | mismatch
  /-- There is no verdict. -/
  | failed
  deriving DecidableEq, Repr

/-- The name of a verdict. -/
def ValidationStatus.label : ValidationStatus → String
  | .passed => "passed"
  | .listed => "listed"
  | .mismatch => "mismatch"
  | .failed => "failed"

/-- The result for one module. -/
structure ModuleValidation where
  moduleName : String
  path : Path
  status : ValidationStatus
  /-- The catalog of the dump, in increasing order of names. -/
  symbols : List Symbol := []
  /-- The names found in the source. -/
  heuristic : Option NameSet := none
  reconciliation : Option Reconciliation := none
  issues : List Issue := []
  notes : List String := []

namespace ModuleValidation

/-- The module did not pass. -/
def isFailure (result : ModuleValidation) : Bool :=
  result.status == .mismatch || result.status == .failed

end ModuleValidation

/-- The issue of a dump without nodes: how many lines it has, and its first that is
not blank. -/
def inconclusiveIssue (path : Path) (dump : String) : Issue :=
  let trimmed := (lines dump.toList).map trim
  { path := path.text
    finding := .inconclusiveDump trimmed.length
      ((trimmed.find? (!·.isEmpty)).map String.ofList) }

/-- The issues of a catalog: a gap for each symbol without a line, and a warning if it
is empty. -/
def catalogIssues (path : Path) (scan : ExportScan) : List Issue :=
  scan.gaps.map (fun gap => { path := path.text, finding := .correlationGap gap.name }) ++
    if scan.isEmpty then [{ path := path.text, finding := .emptyExtraction .dump }] else []

/-- The note on a scan. -/
def scanNote (dump : String) (scan : ExportScan) : String :=
  let count := (lines dump.toList).length
  s!"{count} dump lines, {scan.nodeLines} nodes, {scan.exportBlocks} export block(s)"

/-- The result for a module whose dump was scanned and has nodes. -/
def judge (qualifier : String) (path : Path) (source : String) (scan : ExportScan)
    (notes : List String) (listOnly : Bool) : ModuleValidation :=
  let base : ModuleValidation :=
    { moduleName := moduleName path
      path
      status := .listed
      symbols := scan.symbols
      issues := catalogIssues path scan
      notes }
  if listOnly then base
  else
    let heuristic := statementNames qualifier source
    let reconciliation := Reconciliation.compare scan.names heuristic
    let exact := reconciliation.isExact
    { base with
      status := if exact then .passed else .mismatch
      heuristic := some heuristic
      reconciliation := some reconciliation
      issues := base.issues ++
        (if heuristic.isEmpty then
          [{ path := path.text, finding := .emptyExtraction .heuristic }]
        else []) ++
        if exact then []
        else
          [{ path := path.text
             finding := .mismatch reconciliation.onlyAuthoritative.toList
               reconciliation.onlyHeuristic.toList }] }

/-- Validates one module. -/
def validateModule (setup : Setup) (path : Path) (listOnly : Bool) : ModuleValidation :=
  let failed (finding : Finding) (notes : List String) : ModuleValidation :=
    { moduleName := moduleName path
      path
      status := .failed
      issues := [{ path := path.text, finding }]
      notes }
  match setup.files.readText path with
  | .error error => failed (.fileNotFound error.message) []
  | .ok source =>
    let described := setup.dumps.describe path
    match setup.dumps.dump path with
    | .error failure => failed (.toolFailure failure) [described]
    | .ok dump =>
      let scan := scanExports dump (setup.scanOptions (moduleName path))
      let notes := [described, scanNote dump scan]
      if scan.isInconclusive then failed (inconclusiveIssue path dump).finding notes
      else judge setup.config.qualifier path source scan notes listOnly

/-- Validates modules, in order. -/
def validateModules (setup : Setup) (modules : List Path) (listOnly : Bool) :
    List ModuleValidation :=
  modules.map fun path => validateModule setup path listOnly

end ExportAudit.Analysis
