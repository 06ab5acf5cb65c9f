import ExportAudit.Decimal.Fraction

/-!
# The shortest decimal that reads back

A ratio is printed with the fewest digits that name its double and no other.  For
one digit, two digits, and so on, the two decimals of that many digits around the
value are tried; the first length at which one of them rounds to the value is
taken, and of two that do the nearer one.  Seventeen digits always suffice.

Digits are printed positionally with a point, at least one digit on either side,
unless the value is below 10⁻⁵ or at least 10¹⁶; then an exponent follows.
-/

namespace ExportAudit.Decimal

set_option autoImplicit false

/-- A decimal: digits, read as a number, times a power of ten. -/
structure Scientific where
  digits : Nat
  exponent : Int
  deriving DecidableEq, Repr

/-- A decimal as a fraction. -/
def Scientific.toFraction (x : Scientific) : Fraction :=
  if 0 ≤ x.exponent then ⟨x.digits * Nat.pow 10 x.exponent.toNat, 1⟩
  else ⟨x.digits, Nat.pow 10 (-x.exponent).toNat⟩

/-- The power of ten of the leading digit of a positive fraction, by counting up
from a lower bound. -/
def leadingPower (x : Fraction) : Int :=
  let size (power : Int) : Bool :=
    if 0 ≤ power then decide (x.den * Nat.pow 10 power.toNat ≤ x.num)
    else decide (x.den ≤ x.num * Nat.pow 10 (-power).toNat)
  let lower : Int := ((x.num.log2 : Int) - (x.den.log2 : Int)) * 3 / 10 - 3
  (List.range 8).foldl (fun (best : Int) (step : Nat) =>
    if size (lower + (step : Int)) then lower + (step : Int) else best) lower

/-- The two decimals around a fraction whose last digit stands at a power of ten. -/
def around (x : Fraction) (power : Int) : Scientific × Scientific :=
  let scaled : Fraction :=
    if 0 ≤ power then ⟨x.num, x.den * Nat.pow 10 power.toNat⟩
    else ⟨x.num * Nat.pow 10 (-power).toNat, x.den⟩
  let below := scaled.num / scaled.den
  (⟨below, power⟩, ⟨below + 1, power⟩)

/-- The distance of two fractions, as a fraction over both denominators. -/
def distance (x y : Fraction) : Fraction :=
  let a := x.num * y.den
  let b := y.num * x.den
  ⟨if a ≤ b then b - a else a - b, x.den * y.den⟩

/-- The first of two decimals is at least as near to a fraction as the second. -/
def isNearer (x : Fraction) (first second : Scientific) : Bool :=
  let a := distance x first.toFraction
  let b := distance x second.toFraction
  decide (a.num * b.den ≤ b.num * a.den)

/-- The decimal of one length that reads back, if there is one. -/
def ofLength? (value : Double) (length : Nat) : Option Scientific :=
  let x := value.toFraction
  let (below, above) := around x (leadingPower x - (length : Int) + 1)
  let reads (d : Scientific) : Bool := Double.nearest d.toFraction = value
  match reads below, reads above with
  | true, true => some (if isNearer x below above then below else above)
  | true, false => some below
  | false, true => some above
  | false, false => none

/-- The shortest decimal that reads back as a positive double. -/
def shortest (value : Double) : Scientific :=
  ((List.range 17).findSome? fun step => ofLength? value (step + 1)).getD ⟨0, 0⟩

/-- Drops zeros at the end of the digits. -/
def stripZeros : Nat → Scientific → Scientific
  | 0, x => x
  | fuel + 1, x =>
    if x.digits ≠ 0 ∧ x.digits % 10 = 0 then
      stripZeros fuel ⟨x.digits / 10, x.exponent + 1⟩
    else x

/-- The text of a decimal. -/
def Scientific.render (x : Scientific) : String :=
  let digits := (toString x.digits).toList
  let point : Int := (digits.length : Int) + x.exponent
  let zeros (n : Int) : List Char := List.replicate n.toNat '0'
  String.ofList <|
    if 0 ≤ x.exponent ∧ point ≤ 16 then digits ++ zeros x.exponent ++ ['.', '0']
    else if 0 < point ∧ point ≤ 16 then
      digits.take point.toNat ++ ['.'] ++ digits.drop point.toNat
    else if -5 < point ∧ point ≤ 0 then ['0', '.'] ++ zeros (-point) ++ digits
    else
      let tail := match digits with
        | [] => []
        | [d] => [d]
        | d :: more => d :: '.' :: more
      tail ++ ['e'] ++ (toString (point - 1)).toList

/-- The text of a double: the fewest digits that read back. -/
def renderDouble (value : Double) : String :=
  if value.mantissa = 0 then "0.0" else (stripZeros 20 (shortest value)).render

/-- The text of a ratio of counts. -/
def renderRatio (x : Fraction) : String :=
  renderDouble x.toDouble

end ExportAudit.Decimal
