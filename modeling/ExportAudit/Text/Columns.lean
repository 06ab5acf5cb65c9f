/-!
# Columns of text

A table is laid out by the columns that its cells take on a terminal.  How many those are is for
the terminal to say: a letter and the mark on it are one sign, and two letters may be joined to
one.  So the width of a text is given, and nothing is assumed of it, **not even that the widths
of two texts add up.**

A cell is filled with blanks up to the width of the widest cell of its column.
-/

namespace ExportAudit.Text

set_option autoImplicit false

/-- How many columns each text takes. -/
abbrev Width := String → Nat

/-- The width of the widest of some cells. -/
def columnWidth (width : Width) (cells : List String) : Nat :=
  cells.foldl (fun widest cell => max widest (width cell)) 0

/-- A text followed by the blanks that it lacks to a number of columns. -/
def pad (width : Width) (text : String) (columns : Nat) : String :=
  text ++ String.ofList (List.replicate (columns - width text) ' ')

end ExportAudit.Text
