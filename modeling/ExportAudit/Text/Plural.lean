/-!
# Counted nouns

A count stands before its noun, and every count but one takes the plural.
-/

namespace ExportAudit.Text

set_option autoImplicit false

/-- A count and its noun. -/
def pluralize (count : Nat) (noun : String) : String :=
  if count = 1 then s!"{count} {noun}" else s!"{count} {noun}s"

end ExportAudit.Text
