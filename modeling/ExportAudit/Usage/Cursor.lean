import ExportAudit.Dump.Location

/-!
# The position of a node

A dump prints a file only when it changes and a line only when it changes, so what
a location means depends on every location before it.  A cursor remembers the last
file and line.  A node begins where its first location puts the cursor, unless that
location is invalid; **its other locations still move the cursor.**
-/

namespace ExportAudit.Usage

set_option autoImplicit false

open ExportAudit.Dump

/-- The last file and line printed, as far as any was. -/
structure Position where
  file : Option String := none
  line : Option Nat := none
  deriving DecidableEq, Repr

namespace Position

/-- Nothing printed yet. -/
def start : Position := {}

/-- The position after one more location. -/
def move (position : Position) : Location → Position
  | .invalid | .col _ => position
  | .file path number _ => { file := some path, line := some number }
  | .line number _ => { position with line := some number }

/-- The position after the locations of a node, and where the node begins. -/
def advance (position : Position) : List Location → Position × Option Position
  | [] => (position, none)
  | first :: rest =>
    let reached := position.move first
    (rest.foldl move reached, if first = .invalid then none else some reached)

end Position

end ExportAudit.Usage
