/-!
# Classes of characters given by ranges

A property of characters that a standard defines by a table is kept as a list
of closed ranges of code points.  Membership is a linear search: the tables are
short, and the characters below 128, which are nearly all that occur, are
decided by the modules that use the tables before any search is made.
-/

namespace ExportAudit.Text

set_option autoImplicit false

/-- Closed ranges of code points. -/
abbrev Ranges := List (Nat × Nat)

/-- Some range holds the code point. -/
def Ranges.has (table : Ranges) (code : Nat) : Bool :=
  table.any fun range => range.1 ≤ code && code ≤ range.2

/-- **Membership is membership in one of the ranges.** -/
theorem Ranges.has_iff {table : Ranges} {code : Nat} :
    table.has code = true ↔ ∃ range ∈ table, range.1 ≤ code ∧ code ≤ range.2 := by
  simp [Ranges.has]

end ExportAudit.Text
