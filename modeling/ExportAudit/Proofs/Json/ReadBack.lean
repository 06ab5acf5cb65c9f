import ExportAudit.Json.Value
import ExportAudit.Proofs.Json.Numbers
import ExportAudit.Proofs.Text.Decimal
import Mathlib.Tactic.SplitIfs

/-!
# Printed values are read back

A typed reader takes its value from the front of a text and leaves the rest alone.  What
it has to be told is where its value ends.  A string, an array and an object end with a
mark of their own, a number only where no digit, point or exponent follows.  So a text is
read back, whatever blanks stand in front of it, **in front of every rest that does not go
on with a number.**

The pretty layout puts nothing else behind a value: a comma, a new line, or the end of
the text.
-/

namespace ExportAudit.Json

set_option autoImplicit false

open ExportAudit.Text

/-! ## What stands around a value -/

/-- A text of blanks. -/
def AllSpace (blanks : List Char) : Prop :=
  ∀ c ∈ blanks, isSpace c = true

/-- A text that a reader reads back as a value.  It begins like a value, not with a blank
and not with the end of an array. -/
structure ReadsBack {α : Type} (reader : Reader α) (text : List Char) (value : α) : Prop where
  opens : ∃ c more, text = c :: more ∧ isSpace c = false ∧ c ≠ ']'
  reads : ∀ {blanks rest : List Char}, AllSpace blanks → Stops isNumberRest rest →
    reader (blanks ++ (text ++ rest)) = .ok (value, rest)

theorem skipSpace_append {blanks rest : List Char} (allSpace : AllSpace blanks)
    (stops : Stops isSpace rest) : skipSpace (blanks ++ rest) = rest :=
  dropWhile_run allSpace stops

theorem skipSpace_cons {c : Char} (solid : isSpace c = false) (rest : List Char) :
    skipSpace (c :: rest) = c :: rest :=
  List.dropWhile_cons_of_neg (by simp [solid])

/-- Where a text that is read back begins. -/
theorem ReadsBack.skipSpace {α : Type} {reader : Reader α} {blanks text : List Char} {value : α}
    (reads : ReadsBack reader text value) (allSpace : AllSpace blanks) (rest : List Char) :
    ∃ c more, c ≠ ']' ∧ text ++ rest = c :: more ∧
      Json.skipSpace (blanks ++ (text ++ rest)) = c :: more := by
  obtain ⟨c, more, rfl, solid, notEnd⟩ := reads.opens
  exact ⟨c, more ++ rest, notEnd, rfl, skipSpace_append allSpace (stops_cons.2 solid)⟩

theorem allSpace_newLine (level : Nat) : AllSpace (newLine level) := by
  intro c member
  rcases List.mem_cons.1 member with rfl | member
  · decide
  · rw [List.eq_of_mem_replicate member]
    decide

theorem stops_newLine (level : Nat) (rest : List Char) :
    Stops isNumberRest (newLine level ++ rest) :=
  stops_cons.2 (by decide)

/-! ## Strings -/

/-- The two last digits of the escape of a control character name it. -/
theorem unit?_hexDigit {code : Nat} (small : code < 32) :
    unit? '0' '0' (hexDigit (code / 16)) (hexDigit (code % 16)) = some code := by
  have all : ∀ code < 32,
      unit? '0' '0' (hexDigit (code / 16)) (hexDigit (code % 16)) = some code := by decide
  exact all code small

/-- A character of its own in a string. -/
theorem readChars_plain {c : Char} (notQuote : c ≠ '"') (notBackslash : c ≠ '\\')
    (notControl : ¬ c.toNat < 32) (rest : List Char) :
    readChars (c :: rest) = push c (readChars rest) := by
  rw [readChars.eq_7 c rest notQuote (fun _ _ _ _ _ same _ => notBackslash same)
    (fun _ same _ => notBackslash same) (fun same _ => notBackslash same)
    (fun _ _ same _ => notBackslash same), if_neg notControl]

/-- The escape of a control character by its number. -/
theorem readChars_control {c : Char} (control : c.toNat < 32) (rest : List Char) :
    readChars ('\\' :: 'u' :: '0' :: '0' :: hexDigit (c.toNat / 16) :: hexDigit (c.toNat % 16) ::
      rest) = push c (readChars rest) := by
  have notTrailing : ¬ isTrailingUnit c.toNat = true := by simp [isTrailingUnit]; omega
  have notLeading : ¬ isLeadingUnit c.toNat = true := by simp [isLeadingUnit]; omega
  rw [readChars.eq_3, unit?_hexDigit control]
  simp only [if_neg notTrailing, if_neg notLeading, Char.ofNat_toNat]

/-- **The text of a character is read back as that character.** -/
theorem readChars_escape (c : Char) (rest : List Char) :
    readChars (escape c ++ rest) = push c (readChars rest) := by
  rw [escape]
  split_ifs with quote backslash backspace formFeed newline ret tab control
  · subst quote; rfl
  · subst backslash; rfl
  · subst backspace; rfl
  · subst formFeed; rfl
  · subst newline; rfl
  · subst ret; rfl
  · subst tab; rfl
  · exact readChars_control control rest
  · exact readChars_plain quote backslash control rest

/-- **The text of a string is read back up to its closing quote.** -/
theorem readChars_quoted (characters rest : List Char) :
    readChars (characters.flatMap escape ++ '"' :: rest) = .ok (characters, rest) := by
  induction characters with
  | nil => rfl
  | cons c characters ih =>
    rw [List.flatMap_cons, List.append_assoc, readChars_escape, ih]
    rfl

theorem quote_append (value : String) (rest : List Char) :
    quote value ++ rest = '"' :: (value.toList.flatMap escape ++ '"' :: rest) := by
  simp [quote]

/-- **A printed string is read back.** -/
theorem readsBack_quote (value : String) : ReadsBack readString (quote value) value where
  opens := ⟨'"', _, rfl, by decide, by decide⟩
  reads {blanks rest} allSpace _ := by
    rw [quote_append, readString, skipSpace_append allSpace (stops_cons.2 (by decide))]
    simp [readChars_quoted, Except.map]

/-! ## Numbers -/

/-- The parts of the literal of an integer. -/
def integerParts (negative : Bool) (magnitude : Nat) : NumberParts :=
  { negative, whole := decimal magnitude, fraction := none, exponent := none }

theorem toList_toString_nat (number : Nat) : (toString number).toList = decimal number := by
  rw [Nat.toString_eq_repr, Nat.toList_repr, decimal]

/-- An integer is printed as the sign and the digits of its magnitude. -/
theorem toList_toString_int (number : Int) :
    (toString number).toList = sign (decide (number < 0)) ++ decimal number.natAbs := by
  cases number with
  | ofNat magnitude => exact toList_toString_nat magnitude
  | negSucc magnitude =>
    have isText : toString (Int.negSucc magnitude) = "-" ++ (magnitude + 1).repr := rfl
    have isNegative : decide (Int.negSucc magnitude < 0) = true := by simp
    rw [isText, String.toList_append, Nat.toList_repr, isNegative]
    rfl

theorem digitsValue_decimal (number : Nat) : digitsValue (decimal number) = number :=
  Nat.ofDigitChars_toDigits (by decide) (by decide)

theorem zeroAlone_decimal (number : Nat) : ZeroAlone (decimal number) := by
  rintro ⟨zero, long⟩
  by_cases small : number < 10
  · simp [decimal_of_lt small] at long
  · exact head?_decimal_ne_zero (Nat.not_lt.1 small) zero

/-- The literal of an integer has neither fraction nor exponent. -/
def integerLiteral (negative : Bool) (magnitude : Nat) : NumberLiteral where
  negative
  whole := ⟨decimal magnitude, decimal_ne_nil magnitude, fun _ => isAsciiDigit_of_mem_decimal⟩
  zeroAlone := zeroAlone_decimal magnitude
  fraction := none
  exponent := none

theorem text_integerLiteral (negative : Bool) (magnitude : Nat) :
    (integerLiteral negative magnitude).text = sign negative ++ decimal magnitude := by
  simp [integerLiteral, NumberLiteral.text, NumberLiteral.magnitudeText, fractionText, exponentText]

/-- **The literal of an integer is taken apart into its sign and its digits.** -/
theorem readParts_integer (negative : Bool) (magnitude : Nat) {rest : List Char}
    (stops : Stops isNumberRest rest) :
    readParts (sign negative ++ (decimal magnitude ++ rest)) =
      .ok (integerParts negative magnitude, rest) := by
  rw [← List.append_assoc, ← text_integerLiteral, readParts_text _ stops]
  rfl

theorem toNumber_natural {value : Nat} (small : value < Nat.pow 2 64) :
    (integerParts false value).toNumber = .natural value := by
  have isChoice : (integerParts false value).toNumber =
      if digitsValue (decimal value) < Nat.pow 2 64 then .natural (digitsValue (decimal value))
      else .float := rfl
  rw [isChoice, digitsValue_decimal]
  exact if_pos small

theorem toNumber_negative {value : Nat} (positive : 0 < value) (small : value ≤ Nat.pow 2 63) :
    (integerParts true value).toNumber = .negative value := by
  have isChoice : (integerParts true value).toNumber =
      if 0 < digitsValue (decimal value) ∧ digitsValue (decimal value) ≤ Nat.pow 2 63 then
        .negative (digitsValue (decimal value))
      else .float := rfl
  rw [isChoice, digitsValue_decimal]
  exact if_pos ⟨positive, small⟩

theorem isSpace_eq_false_of_isAsciiDigit {c : Char} (digit : isAsciiDigit c = true) :
    isSpace c = false := by
  rw [Bool.eq_false_iff]
  intro space
  simp only [isSpace, Bool.or_eq_true, beq_iff_eq] at space
  rcases space with ((rfl | rfl) | rfl) | rfl <;> exact absurd digit (by decide)

/-- **The literal of an integer is read as a number of the kind it is.** -/
theorem readsBack_integer {α : Type} {make : Number → Option α} {negative : Bool}
    {magnitude : Nat} {number : Number} {value : α}
    (isKind : (integerParts negative magnitude).toNumber = number) (isWord : number ≠ .float)
    (made : make number = some value) :
    ReadsBack (readNumberAs make) (sign negative ++ decimal magnitude) value := by
  obtain ⟨c, more, isCons, begins⟩ := (integerLiteral negative magnitude).exists_cons
  rw [text_integerLiteral] at isCons
  have solid : isSpace c = false := by
    rcases begins with rfl | digit
    · decide
    · exact isSpace_eq_false_of_isAsciiDigit digit
  refine ⟨⟨c, more, isCons, solid, ?_⟩, fun {blanks rest} allSpace stops => ?_⟩
  · rintro rfl
    exact absurd begins (by decide)
  · have isNumber : readNumber (sign negative ++ (decimal magnitude ++ rest)) =
        .ok (number, rest) := by
      rw [readNumber, readParts_integer negative magnitude stops]
      simp only [bind, Except.bind, isKind]
    rw [← List.append_assoc, isCons, List.cons_append] at isNumber
    rw [isCons, List.cons_append, readNumberAs, skipSpace_append allSpace (stops_cons.2 solid)]
    simp only [if_pos begins, isNumber, bind, Except.bind, made]

/-- **A printed word of 64 bits is read back.** -/
theorem readsBack_unsigned (value : UInt64) :
    ReadsBack readUnsigned (toString value.toNat).toList value := by
  rw [toList_toString_nat]
  exact readsBack_integer (toNumber_natural value.toNat_lt) (by simp)
    (congrArg some UInt64.ofNat_toNat)

/-- **A printed word of 32 bits with a sign is read back.** -/
theorem readsBack_signed (value : Int32) :
    ReadsBack readSigned (toString value.toInt).toList value := by
  have bound : Nat.pow 2 31 = 2 ^ 31 := rfl
  have below : value.toInt < 2 ^ 31 := value.toInt_lt
  have above : -2 ^ 31 ≤ value.toInt := value.le_toInt
  rw [toList_toString_int]
  by_cases negative : value.toInt < 0
  · have magnitude : -(value.toInt.natAbs : Int) = value.toInt := by omega
    have small : value.toInt.natAbs ≤ Nat.pow 2 31 := by omega
    rw [decide_eq_true negative]
    refine readsBack_integer (toNumber_negative (by omega) (small.trans (by decide))) (by simp) ?_
    simp only [if_pos small, magnitude, Int32.ofInt_toInt]
  · have magnitude : (value.toInt.natAbs : Int) = value.toInt := by omega
    have small : value.toInt.natAbs < Nat.pow 2 31 := by omega
    rw [decide_eq_false negative]
    refine readsBack_integer (toNumber_natural (small.trans (by decide))) (by simp) ?_
    simp only [if_pos small, ← Int32.ofInt_eq_ofNat, magnitude, Int32.ofInt_toInt]

end ExportAudit.Json
