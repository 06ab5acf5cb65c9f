import ExportAudit.Text.Word

/-!
# Arithmetic in scripts

Sums and products of numbers, variables and expressions in parentheses, from left to
right.  Division goes toward zero.  This is for scripts that stand in the place of a compiler,
and no result rests on it.
-/

namespace ExportAudit.Emulation.Arithmetic

set_option autoImplicit false

open ExportAudit.Text

/-- The value of a run of digits. -/
def digitsValue (digits : List Char) : Int :=
  digits.foldl (fun value c => 10 * value + (c.toNat - 48 : Int)) 0

mutual
/-- A number, a variable, a negation, or an expression in parentheses. -/
def atom (value : String → Int) : Nat → List Char → Int × List Char
  | 0, text => (0, text)
  | _ + 1, [] => (0, [])
  | fuel + 1, c :: rest =>
    if c = '(' then
      let (inner, tail) := sum value fuel rest
      (inner, tail.drop 1)
    else if c = '-' then
      let (inner, tail) := atom value fuel rest
      (-inner, tail)
    else if c = '$' then atom value fuel rest
    else if isAsciiDigit c then
      (digitsValue ((c :: rest).takeWhile isAsciiDigit), (c :: rest).dropWhile isAsciiDigit)
    else
      (value (String.ofList ((c :: rest).takeWhile isIdentRest)), (c :: rest).dropWhile isIdentRest)

/-- A product. -/
def product (value : String → Int) : Nat → List Char → Int × List Char
  | 0, text => (0, text)
  | fuel + 1, text =>
    let (first, tail) := atom value fuel text
    factors value fuel first tail

/-- The further factors of a product. -/
def factors (value : String → Int) : Nat → Int → List Char → Int × List Char
  | 0, left, text => (left, text)
  | fuel + 1, left, text =>
    match text with
    | '*' :: rest =>
      let (right, tail) := atom value fuel rest
      factors value fuel (left * right) tail
    | '/' :: rest =>
      let (right, tail) := atom value fuel rest
      factors value fuel (left.tdiv right) tail
    | '%' :: rest =>
      let (right, tail) := atom value fuel rest
      factors value fuel (left.tmod right) tail
    | _ => (left, text)

/-- A sum. -/
def sum (value : String → Int) : Nat → List Char → Int × List Char
  | 0, text => (0, text)
  | fuel + 1, text =>
    let (first, tail) := product value fuel text
    terms value fuel first tail

/-- The further terms of a sum. -/
def terms (value : String → Int) : Nat → Int → List Char → Int × List Char
  | 0, left, text => (left, text)
  | fuel + 1, left, text =>
    match text with
    | '+' :: rest =>
      let (right, tail) := product value fuel rest
      terms value fuel (left + right) tail
    | '-' :: rest =>
      let (right, tail) := product value fuel rest
      terms value fuel (left - right) tail
    | _ => (left, text)
end

/-- The value of an expression. -/
def evaluate (value : String → Int) (expression : List Char) : Int :=
  let text := expression.filter fun c => c != ' ' && c != '\t' && c != '\n'
  (sum value (4 * text.length + 4) text).1

end ExportAudit.Emulation.Arithmetic
