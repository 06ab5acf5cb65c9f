import ExportAudit.Decimal.Fraction

/-!
# Percentages

A percentage is printed with one decimal.  The value printed is a double, so the
quotient is rounded once and its hundredfold once more, and **the exact value of
the result decides the last digit, a half going to the even neighbour.**  Over a
total of zero there is no number to print, only its name.
-/

namespace ExportAudit.Decimal

set_option autoImplicit false

/-- The text of a double with one decimal. -/
def renderTenths (value : Double) : String :=
  let x := value.toFraction
  let tenths := roundQuotient (10 * x.num) x.den
  s!"{tenths / 10}.{tenths % 10}"

/-- The text of a fraction as a percentage. -/
def renderPercent (x : Fraction) : String :=
  if x.den = 0 then (if x.num = 0 then "NaN%" else "inf%")
  else renderTenths (x.toDouble.scaleBy 100) ++ "%"

end ExportAudit.Decimal
