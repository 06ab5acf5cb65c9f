/-!
# Fractions and their nearest doubles

A ratio of two counts is kept exactly.  Where a report prints one, it prints the
double nearest to it, and a percentage is the double nearest to a hundred times
that double.  A positive double is a mantissa of 53 bits times a power of two;
rounding is to the nearest one, ties going to the even mantissa.

The numbers here are ratios of counts, **far from the smallest and the largest
double**, so no exponent has to be bounded.
-/

namespace ExportAudit

set_option autoImplicit false

/-- A ratio of two counts. -/
structure Fraction where
  num : Nat
  den : Nat
  deriving DecidableEq, Repr

/-- The quotient of two numbers rounded to the nearest integer, ties to even. -/
def roundQuotient (num den : Nat) : Nat :=
  let quotient := num / den
  let twice := 2 * (num % den)
  if twice < den then quotient
  else if den < twice then quotient + 1
  else quotient + quotient % 2

namespace Fraction

/-! ## Powers of two -/

/-- A fraction times a power of two. -/
def scale (x : Fraction) (exponent : Int) : Fraction :=
  if 0 ≤ exponent then ⟨x.num * Nat.pow 2 exponent.toNat, x.den⟩
  else ⟨x.num, x.den * Nat.pow 2 (-exponent).toNat⟩

/-- The exponent of the last bit that a double keeps of a positive fraction. -/
def lastBit (x : Fraction) : Int :=
  let guess : Int := (x.num.log2 : Int) - (x.den.log2 : Int) - 52
  let scaled := x.scale (-guess)
  if scaled.num / scaled.den < Nat.pow 2 52 then guess - 1 else guess

end Fraction

/-- A double that is not negative: a mantissa times a power of two.  The mantissa
has 53 bits, or is zero. -/
structure Double where
  mantissa : Nat
  exponent : Int
  deriving DecidableEq, Repr

namespace Double

/-- The double of value zero. -/
def zero : Double := ⟨0, 0⟩

/-- The fraction that a double stands for. -/
def toFraction (x : Double) : Fraction :=
  Fraction.scale ⟨x.mantissa, 1⟩ x.exponent

/-- A mantissa that rounding carried to 54 bits is halved. -/
def normalize (mantissa : Nat) (exponent : Int) : Double :=
  if mantissa = Nat.pow 2 53 then ⟨Nat.pow 2 52, exponent + 1⟩ else ⟨mantissa, exponent⟩

/-- The double nearest to a fraction with a positive denominator. -/
def nearest (x : Fraction) : Double :=
  if x.num = 0 then zero
  else
    let exponent := x.lastBit
    let scaled := x.scale (-exponent)
    normalize (roundQuotient scaled.num scaled.den) exponent

/-- The double nearest to a natural number. -/
def ofNat (n : Nat) : Double :=
  nearest ⟨n, 1⟩

/-- The double nearest to the quotient of two doubles, the second not zero. -/
def div (x y : Double) : Double :=
  let a := x.toFraction
  let b := y.toFraction
  nearest ⟨a.num * b.den, a.den * b.num⟩

/-- The double nearest to a multiple of a double. -/
def scaleBy (factor : Nat) (x : Double) : Double :=
  let a := x.toFraction
  nearest ⟨factor * a.num, a.den⟩

end Double

/-- The double that stands for a fraction: both counts are doubles before they are divided. -/
def Fraction.toDouble (x : Fraction) : Double :=
  (Double.ofNat x.num).div (Double.ofNat x.den)

end ExportAudit
