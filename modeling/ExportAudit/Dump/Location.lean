import ExportAudit.Text.Digit
import ExportAudit.Text.Word
import ExportAudit.Text.Search

/-!
# Source locations in a node header

A dump prints locations in elided form.  A location names its file only when the
file changes, its line only when the line changes, and otherwise its column
alone; a node that comes from nowhere has an invalid location.

Four forms are recognised, in this order at every position of a header:
the invalid location, `line:L:C`, `col:C`, and `path:L:C`.  The first two
keywords count only at the start of a word.  A path is the longest run of
characters that two numbers can follow, **so a colon and digits inside a path stay
part of it.**  A form whose digits name no 32-bit number is still a location,
but an invalid one.
-/

namespace ExportAudit.Dump

set_option autoImplicit false

open ExportAudit.Text

/-- A location as printed. -/
inductive Location where
  /-- A position outside every file. -/
  | invalid
  /-- A position in a file other than the last one printed. -/
  | file (path : String) (line col : Nat)
  /-- A position on another line of the last file. -/
  | line (line col : Nat)
  /-- A position on the last line. -/
  | col (col : Nat)
  deriving DecidableEq, Repr

/-- The line number that a location prints. -/
def Location.lineNumber? : Location → Option Nat
  | .file _ number _ | .line number _ => some number
  | .invalid | .col _ => none

/-! ## The printed forms -/

/-- The form of a position outside every file. -/
def invalidForm : List Char := "<invalid sloc>".toList

/-- The keyword of a position on another line. -/
def lineForm : List Char := "line:".toList

/-- The keyword of a position on the same line. -/
def colForm : List Char := "col:".toList

/-- The characters of a path. -/
def isPathChar (c : Char) : Bool :=
  !isBlank c && c != '<' && c != '>' && c != ',' && c != '\''

/-! ## Recognising one form -/

/-- A colon-separated pair of digit runs at the head. -/
def digitsPair? (text : List Char) : Option ((List Char × List Char) × List Char) := do
  let (first, rest) ← run? isDigit text
  let (second, rest) ← run? isDigit (← after? [':'] rest)
  some ((first, second), rest)

/-- The longest path at the head that a colon and a pair of digit runs follow. -/
def longestPath? : List Char → Option (List Char × (List Char × List Char) × List Char)
  | [] => none
  | c :: rest =>
    if isPathChar c then
      match longestPath? rest with
      | some (path, numbers, tail) => some (c :: path, numbers, tail)
      | none => (after? [':'] rest >>= digitsPair?).map fun (numbers, tail) => ([c], numbers, tail)
    else none

/-- A location made from two numbers, invalid unless both runs name one. -/
def ofNumbers (make : Nat → Nat → Location) (numbers : List Char × List Char) : Location :=
  match lineNumber? numbers.1, lineNumber? numbers.2 with
  | some line, some col => make line col
  | _, _ => .invalid

/-- `line:L:C` at the start of a word. -/
def lineAt? (before : Option Char) (text : List Char) : Option (Location × List Char) := do
  if wordAt before then none
  else
    let (numbers, rest) ← digitsPair? (← after? lineForm text)
    some (ofNumbers .line numbers, rest)

/-- `col:C` at the start of a word. -/
def colAt? (before : Option Char) (text : List Char) : Option (Location × List Char) := do
  if wordAt before then none
  else
    let (digits, rest) ← run? isDigit (← after? colForm text)
    some (((lineNumber? digits).map Location.col).getD .invalid, rest)

/-- `path:L:C`. -/
def fileAt? (text : List Char) : Option (Location × List Char) :=
  (longestPath? text).map fun (path, numbers, rest) =>
    (ofNumbers (.file (String.ofList path)) numbers, rest)

/-- The location at one position and the number of characters it takes. -/
def Location.at? (before : Option Char) (text : List Char) : Option (Location × Nat) :=
  let found :=
    (after? invalidForm text).map (Location.invalid, ·) <|>
      lineAt? before text <|> colAt? before text <|> fileAt? text
  found.map fun (location, rest) => (location, text.length - rest.length)

/-- The locations of a header, from left to right. -/
def locationsOf (header : List Char) : List Location :=
  Text.all Location.at? header

end ExportAudit.Dump
