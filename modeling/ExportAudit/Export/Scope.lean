import ExportAudit.Export.Role

/-!
# The scope of a scan

A scan of a dump is outside every block of the module, inside an own export
block, or inside a qualifying namespace of such a block.  An own export block
opens wherever its line stands, and it ends at the next node that is not deeper
than it.  Inside it, each accepted namespace makes the scan a qualifying one, and
only there a using declaration imports a name.  The name is then pending until
its shadow declaration resolves it or another import replaces it.

**Closing a block forgets everything:** the namespace, the depth and the pending name.
-/

namespace ExportAudit.Export

set_option autoImplicit false

open ExportAudit.Dump

/-- Where a scan is. -/
inductive Scope where
  | outside
  | inExportBlock
  | inNamespace
  deriving DecidableEq, Repr

/-- The namespaces whose using declarations are collected. -/
structure NamespaceFilter where
  /-- The namespace that qualifies the imported names. -/
  qualifier : String
  /-- Further namespaces in which imports count. -/
  nested : List String
  deriving DecidableEq, Repr

/-- Imports count in a namespace of this name. -/
def NamespaceFilter.accepts (filter : NamespaceFilter) (name : String) : Bool :=
  name == filter.qualifier || filter.nested.contains name

/-- What a line does to the catalog. -/
inductive Step where
  | skip
  /-- A name becomes pending. -/
  | imports (name : String) (line : Option Nat)
  /-- The pending name is resolved. -/
  | resolves (name declaration : String)
  deriving DecidableEq, Repr

/-- The state of a scan between two lines. -/
structure ScopeState where
  scope : Scope := .outside
  /-- Depth of the line that opened the block. -/
  blockDepth : Nat := 0
  /-- The imported name that waits for its shadow. -/
  pending : Option String := none
  deriving DecidableEq, Repr

namespace ScopeState

/-- The state at the start of a scan, and after a block ends. -/
def start : ScopeState := {}

/-- The state in a block just opened. -/
def opened (depth : Nat) : ScopeState := { scope := .inExportBlock, blockDepth := depth }

/-- The line is a node that ends the current block. -/
def endsAt (state : ScopeState) (line : Line) : Bool :=
  state.scope != .outside && line.isNode && line.depth ≤ state.blockDepth

/-- The effect of a line inside a block. -/
def inside (state : ScopeState) (filter : NamespaceFilter) : Role → ScopeState × Step
  | .namespaceBlock (some name) =>
    if filter.accepts name then ({ state with scope := .inNamespace }, .skip) else (state, .skip)
  | .usingName name line =>
    if state.scope = .inNamespace then ({ state with pending := some name }, .imports name line)
    else (state, .skip)
  | .shadow declaration name =>
    if state.scope = .inNamespace ∧ state.pending = some name then
      ({ state with pending := none }, .resolves name declaration)
    else (state, .skip)
  | _ => (state, .skip)

/-- The state after a line, and what the line does to the catalog. -/
def advance (state : ScopeState) (filter : NamespaceFilter) (line : Line) (role : Role) :
    ScopeState × Step :=
  if role = .exportBlock true then (opened line.depth, .skip)
  else if state.endsAt line then (start, .skip)
  else if state.scope = .outside then (state, .skip)
  else state.inside filter role

end ScopeState

end ExportAudit.Export
