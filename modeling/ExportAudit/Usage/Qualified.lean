import ExportAudit.Usage.Record
import ExportAudit.Text.Qualified

/-!
# Counting qualified names

The fast strategy counts how often a test's text names a symbol in full: the
namespace at a word boundary, a double colon, any number of further segments, and
the symbol up to a word boundary.  Of the places where the symbol could end such
a chain the last one counts, and counting goes on behind it, so **a chain counts
once, however often it repeats the symbol.**
-/

namespace ExportAudit.Usage

set_option autoImplicit false

open ExportAudit.Text

/-- What follows each further segment of a chain, from left to right; `inside` tells
whether the current segment has a character yet. -/
def segmentStarts (inside : Bool) : List Char → List (List Char)
  | [] => []
  | ':' :: ':' :: rest => if inside then rest :: segmentStarts false rest else []
  | c :: rest => if isWord c then segmentStarts true rest else []

/-- What follows the symbol at the start of a segment, if it ends at a boundary. -/
def afterSymbol? (symbol segment : List Char) : Option (List Char) := do
  let rest ← after? symbol segment
  if isBoundary (symbol.getLast?.or (some ':')) rest.head? then some rest else none

/-- A full name of the symbol at one position, and its length. -/
def qualifiedAt? (qualifier symbol : List Char) (before : Option Char) (text : List Char) :
    Option (Unit × Nat) := do
  if isBoundary before text.head? then
    let chain ← after? (qualifier ++ separator) text
    let rest ← (chain :: segmentStarts false chain).reverse.findSome? (afterSymbol? symbol)
    some ((), text.length - rest.length)
  else none

/-- How often a source names a symbol in full. -/
def countQualified (qualifier symbol source : String) : Nat :=
  (Text.all (qualifiedAt? qualifier.toList symbol.toList) source.toList).length

/-- The usages that counting full names finds. -/
def locateFast (qualifier : String) (symbols : NameSet) (source : String) : UsageMap :=
  symbols.toList.map fun symbol => (symbol, { count := countQualified qualifier symbol source })

end ExportAudit.Usage
