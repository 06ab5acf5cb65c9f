import ExportAudit.Export.Symbol

/-!
# Joining imports to their shadows

The line of a using declaration is printed with the declaration, the kind of the
name only with its shadow, a few lines later.  Recent imports are kept in a
buffer that is bounded by a window: an import at index `i` is seen from index `j`
exactly when `j - i` is below the window.  A shadow takes the line of the
latest import of its name that it sees.

A name enters the catalog once.  **A later shadow of the same name, an overload,
changes nothing.**
-/

namespace ExportAudit.Export

set_option autoImplicit false

/-- An import that a later shadow may take its line from. -/
structure RecentImport where
  index : Nat
  name : String
  line : Option Nat
  deriving DecidableEq, Repr

/-- The state of a correlation. -/
structure Correlator where
  /-- How far a shadow looks back, in lines. -/
  window : Nat
  /-- The imports still in sight, oldest first. -/
  recent : List RecentImport := []
  /-- The catalog so far, in the order of resolution. -/
  symbols : List Symbol := []
  deriving DecidableEq, Repr

namespace Correlator

/-- A correlation that has seen nothing. -/
def start (window : Nat) : Correlator := { window }

/-- Forgets the oldest imports that the line at an index no longer sees. -/
def evict (correlator : Correlator) (index : Nat) : Correlator :=
  { correlator with
    recent := correlator.recent.dropWhile fun seen => correlator.window ≤ index - seen.index }

/-- Remembers an import. -/
def recordImport (correlator : Correlator) (index : Nat) (name : String) (line : Option Nat) :
    Correlator :=
  let kept := correlator.evict index
  { kept with recent := kept.recent ++ [{ index, name, line }] }

/-- The line of the latest import of a name in sight. -/
def lineOf? (correlator : Correlator) (name : String) : Option Nat :=
  (correlator.recent.reverse.find? (·.name == name)).bind (·.line)

/-- The catalog holds a name. -/
def knows (correlator : Correlator) (name : String) : Bool :=
  correlator.symbols.any (·.name == name)

/-- Adds the name of a shadow to the catalog, and tells whether it was new. -/
def resolve (correlator : Correlator) (index : Nat) (name declaration : String) :
    Correlator × Bool :=
  let kept := correlator.evict index
  if kept.knows name then (kept, false)
  else
    let symbol := { name, kind := .ofDeclaration declaration, line := kept.lineOf? name }
    ({ kept with symbols := kept.symbols ++ [symbol] }, true)

end Correlator

end ExportAudit.Export
