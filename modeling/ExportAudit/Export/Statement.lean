import ExportAudit.NameSet
import ExportAudit.Text.Pieces
import ExportAudit.Text.Search
import ExportAudit.Text.Word
import ExportAudit.Text.Qualified

/-!
# Exports read off the source text

A using statement of the qualifying namespace stands at the start of a line,
after blanks only, and has the form

`using` blanks namespace `::` (word `::`)* word blanks `;`

where a word is a nonempty run of word characters.  The statement names its last
word.  The reading is line by line and knows neither comments nor strings: a
commented line fails because the statement does not stand first, but **a line of a
block comment that has the form is read as a statement.**
-/

namespace ExportAudit.Export

set_option autoImplicit false

open ExportAudit.Text

/-- What follows the namespace and its separator after a nonempty run of blanks.
The namespace is text, and may itself begin with blanks. -/
def afterQualifier? (qualifier : List Char) : List Char → Option (List Char)
  | [] => none
  | c :: rest =>
    if isBlank c then
      (after? qualifier rest >>= after? separator) <|> afterQualifier? qualifier rest
    else none

/-- Reads the words up to the semicolon and answers the last one; `word` holds the
characters of the current word, latest first. -/
def lastWord? (word : List Char) : List Char → Option (List Char)
  | [] => none
  | ':' :: ':' :: rest => if word.isEmpty then none else lastWord? [] rest
  | c :: rest =>
    if isWord c then lastWord? (c :: word) rest
    else if word.isEmpty then none
    else if (trimStart (c :: rest)).head? = some ';' then some word.reverse
    else none

/-- The name that a line's using statement exports. -/
def statementName? (qualifier : String) (line : List Char) : Option String := do
  let rest ← after? "using".toList (trimStart line)
  let name ← lastWord? [] (← afterQualifier? qualifier.toList rest)
  some (String.ofList name)

/-- The names that the using statements of a source export. -/
def statementNames (qualifier source : String) : NameSet :=
  .ofList ((lines source.toList).filterMap (statementName? qualifier))

end ExportAudit.Export
