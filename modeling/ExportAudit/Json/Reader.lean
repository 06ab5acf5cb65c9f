import ExportAudit.Text.Word

/-!
# Reading JSON text into typed values

A typed reader reads one value of an expected shape from the front of a text and
answers the value and the rest of the text.  It works strictly from left to right,
so of two faults in a text **the one that comes first in reading order is
reported.**  There are three: the text breaks the grammar, the text ends too early,
or a well formed value has the wrong shape.

A scalar of the wrong shape is read to its end before it is refused, so a broken
scalar counts as broken.  An array or an object of the wrong shape is refused at its
bracket.  Values of unknown members are read for their grammar only: their numbers
have no range, their strings may hold unpaired surrogates, and their nesting has no
limit.
-/

namespace ExportAudit.Json

set_option autoImplicit false

open ExportAudit.Text

/-- Why a text could not be read. -/
inductive Fault where
  /-- The text breaks the grammar. -/
  | malformed
  /-- The text ends too early. -/
  | truncated
  /-- A value has the wrong shape. -/
  | mistyped
  deriving DecidableEq, Repr

/-- The name of a fault's category. -/
def Fault.label : Fault → String
  | .malformed => "Syntax"
  | .truncated => "Eof"
  | .mistyped => "Data"

/-- Reads a value from the front of a text. -/
abbrev Reader (α : Type) := List Char → Except Fault (α × List Char)

/-! ## Blanks and words -/

/-- The blanks of JSON. -/
def isSpace (c : Char) : Bool :=
  c == ' ' || c == '\n' || c == '\t' || c == '\r'

/-- The text without blanks in front. -/
def skipSpace (text : List Char) : List Char :=
  text.dropWhile isSpace

/-- Expects the rest of a word such as `null`. -/
def readWord : List Char → List Char → Except Fault (List Char)
  | [], text => .ok text
  | _ :: _, [] => .error .truncated
  | a :: word, c :: rest => if a = c then readWord word rest else .error .malformed

/-! ## Strings -/

/-- The value of a hexadecimal digit. -/
def hexValue? (c : Char) : Option Nat :=
  if '0' ≤ c ∧ c ≤ '9' then some (c.toNat - 48)
  else if 'a' ≤ c ∧ c ≤ 'f' then some (c.toNat - 87)
  else if 'A' ≤ c ∧ c ≤ 'F' then some (c.toNat - 55)
  else none

/-- The code unit that four hexadecimal digits name. -/
def unit? (a b c d : Char) : Option Nat := do
  some ((← hexValue? a) * 4096 + (← hexValue? b) * 256 + (← hexValue? c) * 16 + (← hexValue? d))

/-- The code unit is the first half of a pair. -/
def isLeadingUnit (unit : Nat) : Bool := 0xD800 ≤ unit && unit ≤ 0xDBFF

/-- The code unit is the second half of a pair. -/
def isTrailingUnit (unit : Nat) : Bool := 0xDC00 ≤ unit && unit ≤ 0xDFFF

/-- The character of a pair of code units. -/
def pairedChar (leading trailing : Nat) : Char :=
  Char.ofNat (0x10000 + (leading - 0xD800) * 0x400 + (trailing - 0xDC00))

/-- The fault of an escape with fewer than four characters left: four bytes are
looked at together, and they are digits or not only if there are four. -/
def shortUnitFault (text : List Char) : Fault :=
  if (String.ofList text).utf8ByteSize < 4 then .truncated else .malformed

/-- The fault of a first half of a pair that no second half follows. -/
def unpairedFault : List Char → Fault
  | [] => .truncated
  | ['\\'] => .truncated
  | '\\' :: 'u' :: rest => shortUnitFault rest
  | _ => .malformed

/-- The character of a short escape. -/
def shortEscape? (c : Char) : Option Char :=
  if c = '"' then some '"'
  else if c = '\\' then some '\\'
  else if c = '/' then some '/'
  else if c = 'b' then some '\x08'
  else if c = 'f' then some '\x0c'
  else if c = 'n' then some '\n'
  else if c = 'r' then some '\r'
  else if c = 't' then some '\t'
  else none

/-- A character in front of what is read after it. -/
def push (c : Char) (read : Except Fault (List Char × List Char)) :
    Except Fault (List Char × List Char) :=
  read.map fun (characters, rest) => (c :: characters, rest)

/-- The characters of a string after its opening quote. -/
def readChars : Reader (List Char)
  | [] => .error .truncated
  | '"' :: rest => .ok ([], rest)
  | '\\' :: 'u' :: a :: b :: c :: d :: rest =>
    match unit? a b c d with
    | none => .error .malformed
    | some unit =>
      if isTrailingUnit unit then .error .malformed
      else if isLeadingUnit unit then
        match rest with
        | '\\' :: 'u' :: e :: f :: g :: h :: rest =>
          match unit? e f g h with
          | none => .error .malformed
          | some trailing =>
            if isTrailingUnit trailing then push (pairedChar unit trailing) (readChars rest)
            else .error .malformed
        | other => .error (unpairedFault other)
      else push (Char.ofNat unit) (readChars rest)
  | '\\' :: 'u' :: rest => .error (shortUnitFault rest)
  | ['\\'] => .error .truncated
  | '\\' :: e :: rest =>
    match shortEscape? e with
    | some c => push c (readChars rest)
    | none => .error .malformed
  | c :: rest => if c.toNat < 32 then .error .malformed else push c (readChars rest)

/-- What follows a string that nobody looks at, after its opening quote. -/
def skipChars : List Char → Except Fault (List Char)
  | [] => .error .truncated
  | '"' :: rest => .ok rest
  | '\\' :: 'u' :: a :: b :: c :: d :: rest =>
    if (unit? a b c d).isSome then skipChars rest else .error .malformed
  | '\\' :: 'u' :: rest => .error (shortUnitFault rest)
  | ['\\'] => .error .truncated
  | '\\' :: e :: rest => if (shortEscape? e).isSome then skipChars rest else .error .malformed
  | c :: rest => if c.toNat < 32 then .error .malformed else skipChars rest

/-! ## Numbers -/

/-- The literal of a number, taken apart. -/
structure NumberParts where
  negative : Bool
  /-- The digits before the point. -/
  whole : List Char
  /-- The digits after the point, if there is one. -/
  fraction : Option (List Char)
  /-- The sign and the digits of the exponent, if there is one. -/
  exponent : Option (Bool × List Char)
  deriving DecidableEq, Repr

/-- A nonempty run of digits. -/
def readDigits : Reader (List Char)
  | [] => .error .truncated
  | c :: rest =>
    if isAsciiDigit c then .ok (c :: rest.takeWhile isAsciiDigit, rest.dropWhile isAsciiDigit)
    else .error .malformed

/-- The digits before the point: zero stands alone. -/
def readWhole (text : List Char) : Except Fault (List Char × List Char) := do
  let (digits, rest) ← readDigits text
  if digits.head? = some '0' ∧ 1 < digits.length then .error .malformed else .ok (digits, rest)

/-- The point and the digits after it, if there is a point. -/
def readFraction (text : List Char) : Except Fault (Option (List Char) × List Char) :=
  match text with
  | '.' :: rest => (readDigits rest).map fun (digits, rest) => (some digits, rest)
  | _ => .ok (none, text)

/-- The exponent, if there is one; the flag tells whether it is negative. -/
def readExponent (text : List Char) : Except Fault (Option (Bool × List Char) × List Char) :=
  match text with
  | c :: rest =>
    if c = 'e' ∨ c = 'E' then
      let (negative, rest) := match rest with
        | '-' :: rest => (true, rest)
        | '+' :: rest => (false, rest)
        | _ => (false, rest)
      (readDigits rest).map fun (digits, rest) => (some (negative, digits), rest)
    else .ok (none, text)
  | [] => .ok (none, text)

/-- The literal of a number. -/
def readParts (text : List Char) : Except Fault (NumberParts × List Char) := do
  let (negative, rest) := match text with
    | '-' :: rest => (true, rest)
    | _ => (false, text)
  let (whole, rest) ← readWhole rest
  let (fraction, rest) ← readFraction rest
  let (exponent, rest) ← readExponent rest
  .ok ({ negative, whole, fraction, exponent }, rest)

/-- The value of a run of digits. -/
def digitsValue (digits : List Char) : Nat :=
  digits.foldl (fun value c => 10 * value + (c.toNat - 48)) 0

/-- A number as typed readers see it. -/
inductive Number where
  | natural (value : Nat)
  /-- Minus a positive number. -/
  | negative (value : Nat)
  /-- A number with a fraction or an exponent, or one that no machine word holds. -/
  | float
  deriving DecidableEq, Repr

namespace NumberParts

/-- The integer that a literal without fraction and exponent stands for. -/
def toNumber (parts : NumberParts) : Number :=
  let value := digitsValue parts.whole
  if parts.fraction.isSome || parts.exponent.isSome then .float
  else if !parts.negative then if value < Nat.pow 2 64 then .natural value else .float
  else if 0 < value ∧ value ≤ Nat.pow 2 63 then .negative value
  else .float

/-- The magnitude is beyond the greatest double: at least half a unit above it. -/
def isTooLarge (parts : NumberParts) : Bool :=
  let fraction := parts.fraction.getD []
  let significand := digitsValue (parts.whole ++ fraction)
  let exponent : Int := match parts.exponent with
    | none => 0
    | some (true, digits) => -(digitsValue digits : Int)
    | some (false, digits) => digitsValue digits
  let scale : Int := exponent - fraction.length
  let order : Int := (Nat.toDigits 10 significand).length + scale
  if significand = 0 then false
  else if 310 < order then true
  else if order < 309 then false
  else
    let bound := Nat.pow 2 1024 - Nat.pow 2 970
    if 0 ≤ scale then decide (bound ≤ significand * Nat.pow 10 scale.toNat)
    else decide (bound * Nat.pow 10 (-scale).toNat ≤ significand)

end NumberParts

/-- A number. -/
def readNumber (text : List Char) : Except Fault (Number × List Char) := do
  let (parts, rest) ← readParts text
  match parts.toNumber with
  | .float => if parts.isTooLarge then .error .malformed else .ok (.float, rest)
  | parsed => .ok (parsed, rest)

/-! ## Values nobody looks at -/

/-- What follows a number that nobody looks at; one that ends too early is broken. -/
def skipNumber (text : List Char) : Except Fault (List Char) :=
  match readParts text with
  | .ok (_, rest) => .ok rest
  | .error _ => .error .malformed

mutual
/-- What follows a value of any shape; the fuel bounds the nesting. -/
def skipValue : Nat → List Char → Except Fault (List Char)
  | 0, _ => .error .truncated
  | fuel + 1, text =>
    match skipSpace text with
    | [] => .error .truncated
    | '"' :: rest => skipChars rest
    | '[' :: rest => skipItems fuel true rest
    | '\x7b' :: rest => skipMembers fuel true rest
    | 'n' :: rest => readWord ['u', 'l', 'l'] rest
    | 't' :: rest => readWord ['r', 'u', 'e'] rest
    | 'f' :: rest => readWord ['a', 'l', 's', 'e'] rest
    | c :: rest =>
      if c = '-' ∨ isAsciiDigit c then skipNumber (c :: rest) else .error .malformed

/-- What follows the elements of an array that are still to come. -/
def skipItems : Nat → Bool → List Char → Except Fault (List Char)
  | 0, _, _ => .error .truncated
  | fuel + 1, first, text =>
    match skipSpace text with
    | [] => .error .truncated
    | ']' :: rest => .ok rest
    | c :: rest => do
      if first then skipItems fuel false (← skipValue fuel (c :: rest))
      else if c = ',' then skipItems fuel false (← skipValue fuel rest)
      else .error .malformed

/-- What follows the members of an object that are still to come. -/
def skipMembers : Nat → Bool → List Char → Except Fault (List Char)
  | 0, _, _ => .error .truncated
  | fuel + 1, first, text =>
    match skipSpace text with
    | [] => .error .truncated
    | '\x7d' :: rest => .ok rest
    | c :: rest =>
      if first then skipMember fuel (c :: rest)
      else if c = ',' then skipMember fuel rest
      else .error .malformed

/-- What follows one member of an object and those after it. -/
def skipMember : Nat → List Char → Except Fault (List Char)
  | 0, _ => .error .truncated
  | fuel + 1, text =>
    match skipSpace text with
    | [] => .error .truncated
    | '"' :: rest => do
      match skipSpace (← skipChars rest) with
      | [] => .error .truncated
      | ':' :: rest => skipMembers fuel false (← skipValue fuel rest)
      | _ => .error .malformed
    | _ => .error .malformed
end

/-- What follows a value of any shape. -/
def skipAny (text : List Char) : Except Fault (List Char) :=
  skipValue (3 * text.length + 3) text

/-! ## Typed readers -/

/-- The fault of a value of the wrong shape, at its first character. -/
def wrongShape (text : List Char) : Fault :=
  let after (read : Except Fault (List Char)) : Fault :=
    match read with
    | .ok _ => .mistyped
    | .error fault => fault
  match text with
  | 'n' :: rest => after (readWord ['u', 'l', 'l'] rest)
  | 't' :: rest => after (readWord ['r', 'u', 'e'] rest)
  | 'f' :: rest => after (readWord ['a', 'l', 's', 'e'] rest)
  | '"' :: rest => after ((readChars rest).map (·.2))
  | '[' :: _ | '\x7b' :: _ => .mistyped
  | c :: rest =>
    if c = '-' ∨ isAsciiDigit c then after ((readNumber (c :: rest)).map (·.2))
    else .malformed
  | [] => .truncated

/-- A string. -/
def readString : Reader String := fun text =>
  match skipSpace text with
  | '"' :: rest => (readChars rest).map fun (characters, rest) => (String.ofList characters, rest)
  | other => .error (wrongShape other)

/-- A number of some kind, made from what the literal says. -/
def readNumberAs {α : Type} (make : Number → Option α) : Reader α := fun text =>
  match skipSpace text with
  | c :: rest =>
    if c = '-' ∨ isAsciiDigit c then do
      let (parsed, rest) ← readNumber (c :: rest)
      match make parsed with
      | some value => .ok (value, rest)
      | none => .error .mistyped
    else .error (wrongShape (c :: rest))
  | [] => .error .truncated

/-- An unsigned number of 64 bits. -/
def readUnsigned : Reader UInt64 :=
  readNumberAs fun
    | .natural value => some (UInt64.ofNat value)
    | .negative _ | .float => none

/-- A signed number of 32 bits. -/
def readSigned : Reader Int32 :=
  readNumberAs fun
    | .natural value => if value < Nat.pow 2 31 then some (Int32.ofNat value) else none
    | .negative value => if value ≤ Nat.pow 2 31 then some (Int32.ofInt (-(value : Int))) else none
    | .float => none

/-- The elements of an array that are still to come; the fuel bounds their number. -/
def readItems {α : Type} (item : Reader α) : Nat → Bool → Reader (List α)
  | 0, _, _ => .error .truncated
  | fuel + 1, first, text =>
    match skipSpace text with
    | [] => .error .truncated
    | ']' :: rest => .ok ([], rest)
    | c :: rest =>
      let more (text : List Char) : Except Fault (List α × List Char) := do
        let (value, rest) ← item text
        let (values, rest) ← readItems item fuel false rest
        .ok (value :: values, rest)
      if first then more (c :: rest)
      else if c = ',' then
        match skipSpace rest with
        | [] => .error .truncated
        | ']' :: _ => .error .malformed
        | _ => more rest
      else .error .malformed

/-- An array whose elements one reader reads. -/
def readArray {α : Type} (item : Reader α) : Reader (List α) := fun text =>
  match skipSpace text with
  | '[' :: rest => readItems item (text.length + 1) true rest
  | other => .error (wrongShape other)

/-! ## Records -/

/-- A member of a record: its name, and how its value is read into the record. -/
structure MemberReader (σ : Type) where
  name : String
  read : σ → Reader σ

/-- The member of a name. -/
def MemberReader.find? {σ : Type} (fields : List (MemberReader σ)) (name : String) : Option (MemberReader σ) :=
  fields.find? (·.name == name)

/-- Reads what follows the name of a member: its colon and its value. -/
def readMemberValue {σ : Type} (field : Option (MemberReader σ)) (record : σ) : Reader σ := fun text =>
  match skipSpace text with
  | [] => .error .truncated
  | ':' :: rest =>
    match field with
    | some field => field.read record rest
    | none => (skipAny rest).map (record, ·)
  | _ => .error .malformed

/-- The members of a record that are still to come, in any order; a known member may
come once, an unknown one is passed over. -/
def readMembers {σ : Type} (fields : List (MemberReader σ)) :
    Nat → Bool → List String → σ → Reader σ
  | 0, _, _, _, _ => .error .truncated
  | fuel + 1, first, seen, record, text =>
    match skipSpace text with
    | [] => .error .truncated
    | '\x7d' :: rest => .ok (record, rest)
    | c :: rest =>
      let more (text : List Char) : Except Fault (σ × List Char) :=
        match skipSpace text with
        | [] => .error .truncated
        | '"' :: rest => do
          let (characters, rest) ← readChars rest
          let name := String.ofList characters
          let field := MemberReader.find? fields name
          if field.isSome ∧ name ∈ seen then .error .mistyped
          else
            let (record, rest) ← readMemberValue field record rest
            readMembers fields fuel false (name :: seen) record rest
        | _ => .error .malformed
      if first then more (c :: rest)
      else if c = ',' then more rest
      else .error .malformed

/-- The elements of an array that stands for a record: the members in their order,
those missing at the end left as they are. -/
def readPositions {σ : Type} : List (MemberReader σ) → Bool → σ → Reader σ
  | fields, first, record, text =>
    match skipSpace text with
    | [] => .error .truncated
    | ']' :: rest => .ok (record, rest)
    | c :: rest =>
      match fields with
      | [] => .error .malformed
      | field :: fields =>
        if first then do
          let (record, rest) ← field.read record (c :: rest)
          readPositions fields false record rest
        else if c = ',' then
          match skipSpace rest with
          | [] => .error .truncated
          | ']' :: _ => .error .malformed
          | _ => do
            let (record, rest) ← field.read record rest
            readPositions fields false record rest
        else .error .malformed

/-- A record: an object with its members, or an array of their values. -/
def readRecord {σ : Type} (fields : List (MemberReader σ)) (defaults : σ) : Reader σ := fun text =>
  match skipSpace text with
  | '\x7b' :: rest => readMembers fields (text.length + 1) true [] defaults rest
  | '[' :: rest => readPositions fields true defaults rest
  | other => .error (wrongShape other)

/-- A whole text that holds one value. -/
def readAll {α : Type} (reader : Reader α) (text : String) : Except Fault α := do
  let (value, rest) ← reader text.toList
  if (skipSpace rest).isEmpty then .ok value else .error .malformed

end ExportAudit.Json
