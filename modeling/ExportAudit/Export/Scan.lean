import ExportAudit.Export.Scope
import ExportAudit.Export.Correlation
import ExportAudit.NameSet

/-!
# Scanning a dump for exports

One pass over the node lines of a dump finds what a module exports.  Each line
gets its role, the role moves the scope, and the step that results feeds the
correlation.  Lines that are no nodes are passed over, but they still count in
the distances that the window bounds.

The catalog is sorted by name.  **A dump without nodes proves nothing:** it is
inconclusive, which is not the same as a module without exports.
-/

namespace ExportAudit.Export

set_option autoImplicit false

open ExportAudit.Dump

/-- What a scan looks for. -/
structure ScanOptions where
  /-- The module whose export blocks count. -/
  moduleName : String
  namespaces : NamespaceFilter
  window : Nat
  deriving DecidableEq, Repr

/-- The state of a scan between two lines. -/
structure ScanState where
  scope : ScopeState
  correlator : Correlator
  nodeLines : Nat
  exportBlocks : Nat
  deriving DecidableEq, Repr

/-- What a scan found. -/
structure ExportScan where
  /-- The catalog, in increasing order of names. -/
  symbols : List Symbol
  /-- The number of nodes. -/
  nodeLines : Nat
  /-- The number of the module's own export blocks. -/
  exportBlocks : Nat
  deriving DecidableEq, Repr

namespace ScanState

/-- The state before the first line. -/
def start (window : Nat) : ScanState :=
  { scope := .start, correlator := .start window, nodeLines := 0, exportBlocks := 0 }

/-- Feeds a step to the correlation. -/
def feed (correlator : Correlator) (index : Nat) : Step → Correlator
  | .skip => correlator
  | .imports name line => correlator.recordImport index name line
  | .resolves name declaration => (correlator.resolve index name declaration).1

/-- The state after a line. -/
def next (options : ScanOptions) (state : ScanState) (line : Line) : ScanState :=
  if line.isNode then
    let role := Role.of line options.moduleName options.namespaces.qualifier
    let (scope, step) := state.scope.advance options.namespaces line role
    { scope
      correlator := feed state.correlator line.index step
      nodeLines := state.nodeLines + 1
      exportBlocks := state.exportBlocks + if role = .exportBlock true then 1 else 0 }
  else state

end ScanState

namespace ExportScan

/-- The scan of some lines. -/
def ofLines (options : ScanOptions) (lines : List Line) : ExportScan :=
  let final := lines.foldl (ScanState.next options) (.start options.window)
  { symbols := final.correlator.symbols.mergeSort (fun a b => decide (a.name ≤ b.name))
    nodeLines := final.nodeLines
    exportBlocks := final.exportBlocks }

/-- The dump held no node. -/
def isInconclusive (scan : ExportScan) : Bool :=
  scan.nodeLines == 0

/-- The catalog holds no symbol. -/
def isEmpty (scan : ExportScan) : Bool :=
  scan.symbols.isEmpty

/-- The names of the catalog. -/
def names (scan : ExportScan) : NameSet :=
  .ofList (scan.symbols.map (·.name))

theorem mem_names_iff {scan : ExportScan} {name : String} :
    name ∈ scan.names ↔ ∃ symbol ∈ scan.symbols, symbol.name = name := by
  simp [names, NameSet.mem_ofList]

/-- The symbols whose line was not recovered. -/
def gaps (scan : ExportScan) : List Symbol :=
  scan.symbols.filter (·.line.isNone)

end ExportScan

/-- Scans a dump for the exports of a module. -/
def scanExports (dump : String) (options : ScanOptions) : ExportScan :=
  .ofLines options (parseDump dump)

/-! ## The scope line by line -/

/-- One line of a trace: what the line did, and the scope after it. -/
structure TraceEntry where
  step : Step
  after : ScopeState
  deriving DecidableEq, Repr

/-- Follows the scope over all lines, nodes or not. -/
def traceScope (moduleName : String) (namespaces : NamespaceFilter) :
    ScopeState → List Line → List TraceEntry
  | _, [] => []
  | state, line :: rest =>
    let (after, step) :=
      state.advance namespaces line (Role.of line moduleName namespaces.qualifier)
    { step, after } :: traceScope moduleName namespaces after rest

end ExportAudit.Export
