import ExportAudit.NameSet
import ExportAudit.Text.Pieces

/-!
# Usages of symbols

A test uses a symbol by calling it, by referring to it, or by declaring a variable
of it.  Each site is recorded with its line and with the first few tokens of that
line.  A locator that only counts leaves the records empty, so **the count is kept
beside the records** and not derived from them.
-/

namespace ExportAudit.Usage

set_option autoImplicit false

open ExportAudit.Text

/-- How a site uses a symbol. -/
inductive UsageKind where
  | call
  | reference
  | declaration
  deriving DecidableEq, Repr

/-- The name of a kind of use in reports. -/
def UsageKind.label : UsageKind → String
  | .call => "call"
  | .reference => "reference"
  | .declaration => "declaration"

/-- One site that uses a symbol. -/
structure UsageRecord where
  symbol : String
  kind : UsageKind
  line : Nat
  /-- The first tokens of the source line. -/
  context : String
  deriving DecidableEq, Repr

/-- The usages of one symbol. -/
structure SymbolUsage where
  count : Nat := 0
  records : List UsageRecord := []
  deriving DecidableEq, Repr

/-- One more recorded site. -/
def SymbolUsage.push (usage : SymbolUsage) (record : UsageRecord) : SymbolUsage :=
  { count := usage.count + 1, records := usage.records ++ [record] }

/-- The usages of a set of symbols, in increasing order of names. -/
abbrev UsageMap := List (String × SymbolUsage)

namespace UsageMap

/-- An entry for every name of a set, with no usage yet. -/
def ofNames (names : NameSet) : UsageMap :=
  names.toList.map fun name => (name, {})

/-- The usages with those of one symbol changed, if the symbol has an entry. -/
def change (usages : UsageMap) (symbol : String) (after : SymbolUsage → SymbolUsage) : UsageMap :=
  usages.map fun entry => if entry.1 = symbol then (entry.1, after entry.2) else entry

end UsageMap

/-- The first tokens of a source line, counted from one, separated by single spaces. -/
def lineContext (source : String) (line limit : Nat) : String :=
  if line = 0 then ""
  else
    match (lines source.toList)[line - 1]? with
    | none => ""
    | some text => String.ofList ([' '].intercalate ((tokens text).take limit))

end ExportAudit.Usage
