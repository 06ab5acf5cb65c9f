import ExportAudit.Decimal.Fraction
import ExportAudit.Export.Symbol
import ExportAudit.Usage.Record

/-!
# Coverage of a module's exports

A report lists every export of a module with its usages, tells how many exports are
used, and relates them to their total.  An export is used if its count is positive.
Kinds are known only when the exports came from a dump, and **a module without
exports has no ratio.**
-/

namespace ExportAudit.Usage

set_option autoImplicit false

open ExportAudit.Export

/-- An export with its usages. -/
structure CoveredSymbol where
  name : String
  kind : Option SymbolKind
  count : Nat
  records : List UsageRecord
  deriving DecidableEq, Repr

/-- The export is used. -/
def CoveredSymbol.isUsed (symbol : CoveredSymbol) : Bool :=
  0 < symbol.count

/-- The share of used exports, absent when there are none. -/
def coverageRatio (used total : Nat) : Option Fraction :=
  if total = 0 then none else some ⟨used, total⟩

/-- The coverage of one module's exports by one test. -/
structure CoverageReport where
  /-- The exports, in increasing order of names. -/
  symbols : List CoveredSymbol
  used : Nat
  total : Nat
  ratio : Option Fraction
  deriving DecidableEq, Repr

namespace CoverageReport

/-- The report on some usages, with kinds from a catalog. -/
def ofUsages (usages : UsageMap) (catalog : List Symbol) : CoverageReport :=
  let symbols := usages.map fun (name, usage) =>
    { name
      kind := (catalog.find? (·.name == name)).map (·.kind)
      count := usage.count
      records := usage.records : CoveredSymbol }
  let used := symbols.countP (·.isUsed)
  { symbols, used, total := symbols.length, ratio := coverageRatio used symbols.length }

/-- The exports that are not used. -/
def unused (report : CoverageReport) : List CoveredSymbol :=
  report.symbols.filter (!·.isUsed)

end CoverageReport

end ExportAudit.Usage
