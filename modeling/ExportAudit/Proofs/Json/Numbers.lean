import ExportAudit.Json.Reader
import ExportAudit.Proofs.Text.Runs

/-!
# The spelling of numbers

A number may have a fraction and an exponent, and the exponent one of two marks and a sign that
may be left out.  A literal keeps all of this, and it is well formed by construction: digits
stand in front of and behind the point, and zero in front of it stands alone.

Where a number ends is not marked, so a literal is read whole only in front of a rest that does
not go on with a number.  **There it is taken apart into its parts, and whatever is taken apart
is the text of a literal.**
-/

namespace ExportAudit.Json

set_option autoImplicit false

open ExportAudit.Text

/-! ## Steps that succeed -/

theorem map_eq_ok_iff {α β : Type} {make : α → β} {read : Except Fault α} {answer : β} :
    read.map make = .ok answer ↔ ∃ found, read = .ok found ∧ make found = answer := by
  cases read <;> simp [Except.map]

theorem bind_eq_ok_iff {α β : Type} {next : α → Except Fault β} {read : Except Fault α}
    {answer : β} :
    (read >>= next) = .ok answer ↔ ∃ found, read = .ok found ∧ next found = .ok answer := by
  cases read <;> simp [bind, Except.bind]

/-! ## Where a number stops -/

/-- The characters that could go on with a number. -/
def isNumberRest (c : Char) : Bool :=
  isAsciiDigit c || c == '.' || c == 'e' || c == 'E'

theorem stops_isAsciiDigit {rest : List Char} (stops : Stops isNumberRest rest) :
    Stops isAsciiDigit rest := by
  intro c member
  have noRest := stops c member
  simp only [isNumberRest, Bool.or_eq_false_iff] at noRest
  exact noRest.1.1.1

theorem stops_point {rest : List Char} (stops : Stops isNumberRest rest) :
    Stops (· == '.') rest := by
  intro c member
  have noRest := stops c member
  simp only [isNumberRest, Bool.or_eq_false_iff] at noRest
  exact noRest.1.1.2

/-! ## Runs of digits -/

/-- A run of digits. -/
structure Digits where
  text : List Char
  nonempty : text ≠ []
  areDigits : ∀ c ∈ text, isAsciiDigit c = true

/-- Zero stands alone in front of a point. -/
def ZeroAlone (digits : List Char) : Prop :=
  ¬ (digits.head? = some '0' ∧ 1 < digits.length)

/-- **A run of digits that stops is read whole.** -/
theorem readDigits_text (digits : Digits) {rest : List Char} (stops : Stops isAsciiDigit rest) :
    readDigits (digits.text ++ rest) = .ok (digits.text, rest) := by
  obtain ⟨text, nonempty, areDigits⟩ := digits
  obtain ⟨c, more, rfl⟩ := List.exists_cons_of_ne_nil nonempty
  have allMore : ∀ d ∈ more, isAsciiDigit d = true :=
    fun d member => areDigits d (List.mem_cons_of_mem c member)
  rw [List.cons_append, readDigits, if_pos (areDigits c List.mem_cons_self),
    takeWhile_run allMore stops, dropWhile_run allMore stops]

/-- **What is read as digits is a run of digits.** -/
theorem exists_digits {text found rest : List Char} (isRead : readDigits text = .ok (found, rest)) :
    ∃ digits : Digits, digits.text = found ∧ text = found ++ rest := by
  cases text with
  | nil => cases isRead
  | cons c text =>
    rw [readDigits] at isRead
    split at isRead
    · next isDigit =>
      cases isRead
      refine ⟨⟨c :: text.takeWhile isAsciiDigit, List.cons_ne_nil _ _, ?_⟩, rfl, ?_⟩
      · exact List.forall_mem_cons.2 ⟨isDigit, fun d member => List.mem_takeWhile_imp member⟩
      · rw [List.cons_append, List.takeWhile_append_dropWhile]
    · cases isRead

theorem readWhole_text (digits : Digits) (zeroAlone : ZeroAlone digits.text) {rest : List Char}
    (stops : Stops isAsciiDigit rest) :
    readWhole (digits.text ++ rest) = .ok (digits.text, rest) := by
  rw [readWhole, readDigits_text digits stops]
  exact if_neg zeroAlone

theorem exists_whole {text found rest : List Char} (isRead : readWhole text = .ok (found, rest)) :
    ∃ digits : Digits, digits.text = found ∧ ZeroAlone digits.text ∧ text = found ++ rest := by
  rw [readWhole] at isRead
  obtain ⟨⟨digits, behind⟩, isDigits, answered⟩ := bind_eq_ok_iff.1 isRead
  dsimp only at answered
  split at answered
  · cases answered
  · next zeroAlone =>
    cases answered
    obtain ⟨digits, rfl, whole⟩ := exists_digits isDigits
    exact ⟨digits, rfl, zeroAlone, whole⟩

/-! ## Fractions -/

/-- A fraction with its point. -/
def fractionText : Option Digits → List Char
  | none => []
  | some digits => '.' :: digits.text

theorem readFraction_text (fraction : Option Digits) {rest : List Char}
    (noDigit : Stops isAsciiDigit rest) (noPoint : Stops (· == '.') rest) :
    readFraction (fractionText fraction ++ rest) = .ok (fraction.map (·.text), rest) := by
  cases fraction with
  | some digits =>
    rw [fractionText, List.cons_append, readFraction.eq_1, readDigits_text digits noDigit]
    rfl
  | none =>
    cases rest with
    | nil => rfl
    | cons c rest =>
      have notPoint : c ≠ '.' := by simpa using stops_cons.1 noPoint
      rw [fractionText, List.nil_append, readFraction.eq_2]
      · rfl
      · simpa using notPoint

theorem exists_fraction {text rest : List Char} {found : Option (List Char)}
    (isRead : readFraction text = .ok (found, rest)) :
    ∃ fraction : Option Digits, fraction.map (·.text) = found ∧
      text = fractionText fraction ++ rest := by
  unfold readFraction at isRead
  split at isRead
  · next behind =>
    obtain ⟨⟨digits, end'⟩, isDigits, answered⟩ := map_eq_ok_iff.1 isRead
    cases answered
    obtain ⟨digits, rfl, rfl⟩ := exists_digits isDigits
    exact ⟨some digits, rfl, rfl⟩
  · cases isRead
    exact ⟨none, rfl, rfl⟩

/-! ## Exponents -/

/-- The exponent of a number. -/
structure Exponent where
  mark : Char
  isMark : mark = 'e' ∨ mark = 'E'
  /-- The sign, if it is written: whether it is a minus. -/
  minus : Option Bool
  digits : Digits

/-- The sign of an exponent. -/
def exponentSign : Option Bool → List Char
  | none => []
  | some true => ['-']
  | some false => ['+']

/-- An exponent with its mark and its sign. -/
def exponentText : Option Exponent → List Char
  | none => []
  | some exponent => exponent.mark :: (exponentSign exponent.minus ++ exponent.digits.text)

/-- What is read of an exponent. -/
def Exponent.parts (exponent : Exponent) : Bool × List Char :=
  (exponent.minus.getD false, exponent.digits.text)

/-- Every text behind the mark of an exponent begins with a sign, or with none. -/
theorem exists_exponentSign (text : List Char) :
    ∃ minus behind, text = exponentSign minus ++ behind ∧
      (minus = none → ∀ more, behind ≠ '-' :: more ∧ behind ≠ '+' :: more) := by
  by_cases isMinus : ∃ behind, text = '-' :: behind
  · obtain ⟨behind, rfl⟩ := isMinus
    exact ⟨some true, behind, rfl, nofun⟩
  · by_cases isPlus : ∃ behind, text = '+' :: behind
    · obtain ⟨behind, rfl⟩ := isPlus
      exact ⟨some false, behind, rfl, nofun⟩
    · exact ⟨none, text, rfl, fun _ more =>
        ⟨fun same => isMinus ⟨more, same⟩, fun same => isPlus ⟨more, same⟩⟩⟩

/-- An exponent is read as the digits behind its mark and its sign. -/
theorem readExponent_mark {mark : Char} (isMark : mark = 'e' ∨ mark = 'E') {minus : Option Bool}
    {behind : List Char}
    (noSign : minus = none → ∀ more, behind ≠ '-' :: more ∧ behind ≠ '+' :: more) :
    readExponent (mark :: (exponentSign minus ++ behind)) =
      (readDigits behind).map fun (digits, rest) => (some (minus.getD false, digits), rest) := by
  match minus with
  | some true => exact if_pos isMark
  | some false => exact if_pos isMark
  | none =>
    have isRead := readExponent.eq_3 mark behind (fun more same => (noSign rfl more).1 same)
      (fun more same => (noSign rfl more).2 same)
    rwa [if_pos isMark] at isRead

/-- A digit is no sign. -/
theorem digits_ne_sign (digits : Digits) (rest more : List Char) :
    digits.text ++ rest ≠ '-' :: more ∧ digits.text ++ rest ≠ '+' :: more := by
  obtain ⟨text, nonempty, areDigits⟩ := digits
  obtain ⟨c, behind, rfl⟩ := List.exists_cons_of_ne_nil nonempty
  have isDigit := areDigits c List.mem_cons_self
  constructor <;>
  · intro same
    rw [(List.cons.inj same).1] at isDigit
    exact absurd isDigit (by decide)

/-- **An exponent is read, and so is its absence.** -/
theorem readExponent_text (exponent : Option Exponent) {rest : List Char}
    (stops : Stops isNumberRest rest) :
    readExponent (exponentText exponent ++ rest) = .ok (exponent.map Exponent.parts, rest) := by
  cases exponent with
  | none =>
    cases rest with
    | nil => rfl
    | cons c rest =>
      have noMark : ¬ (c = 'e' ∨ c = 'E') := by
        rintro (rfl | rfl) <;> exact absurd (stops_cons.1 stops) (by decide)
      exact if_neg noMark
  | some exponent =>
    have isText : exponentText (some exponent) ++ rest =
        exponent.mark :: (exponentSign exponent.minus ++ (exponent.digits.text ++ rest)) := by
      simp [exponentText]
    rw [isText, readExponent_mark exponent.isMark fun _ => digits_ne_sign exponent.digits rest,
      readDigits_text exponent.digits (stops_isAsciiDigit stops)]
    rfl

theorem exists_exponent {text rest : List Char} {found : Option (Bool × List Char)}
    (isRead : readExponent text = .ok (found, rest)) :
    ∃ exponent : Option Exponent, exponent.map Exponent.parts = found ∧
      text = exponentText exponent ++ rest := by
  cases text with
  | nil =>
    cases isRead
    exact ⟨none, rfl, rfl⟩
  | cons mark text =>
    by_cases isMark : mark = 'e' ∨ mark = 'E'
    · obtain ⟨minus, behind, rfl, noSign⟩ := exists_exponentSign text
      rw [readExponent_mark isMark noSign] at isRead
      obtain ⟨⟨digits, end'⟩, isDigits, answered⟩ := map_eq_ok_iff.1 isRead
      cases answered
      obtain ⟨digits, rfl, rfl⟩ := exists_digits isDigits
      exact ⟨some ⟨mark, isMark, minus, digits⟩, rfl, by simp [exponentText]⟩
    · have absent : readExponent (mark :: text) = .ok (none, mark :: text) := if_neg isMark
      rw [absent] at isRead
      cases isRead
      exact ⟨none, rfl, rfl⟩

/-! ## Whole literals -/

/-- The sign in front of a magnitude. -/
def sign (negative : Bool) : List Char :=
  if negative then ['-'] else []

/-- A number as it is written. -/
structure NumberLiteral where
  negative : Bool
  whole : Digits
  zeroAlone : ZeroAlone whole.text
  fraction : Option Digits
  exponent : Option Exponent

namespace NumberLiteral

/-- A number behind its sign. -/
def magnitudeText (literal : NumberLiteral) : List Char :=
  literal.whole.text ++ (fractionText literal.fraction ++ exponentText literal.exponent)

/-- The text of a number. -/
def text (literal : NumberLiteral) : List Char :=
  sign literal.negative ++ literal.magnitudeText

/-- The parts of a number. -/
def parts (literal : NumberLiteral) : NumberParts where
  negative := literal.negative
  whole := literal.whole.text
  fraction := literal.fraction.map (·.text)
  exponent := literal.exponent.map Exponent.parts

/-- A number begins with its sign or with a digit. -/
theorem exists_cons (literal : NumberLiteral) :
    ∃ c more, literal.text = c :: more ∧ (c = '-' ∨ isAsciiDigit c = true) := by
  obtain ⟨c, more, isCons⟩ := List.exists_cons_of_ne_nil literal.whole.nonempty
  have isDigit := literal.whole.areDigits c (isCons ▸ List.mem_cons_self)
  cases isNegative : literal.negative with
  | true => exact ⟨'-', literal.magnitudeText, by rw [text, isNegative]; rfl, .inl rfl⟩
  | false => exact ⟨c, _, by rw [text, isNegative, magnitudeText, isCons]; rfl, .inr isDigit⟩

end NumberLiteral

/-- A class without the marks of an exponent does not go on in one. -/
theorem stops_exponentText {accepts : Char → Bool} (noMark : ∀ mark, mark = 'e' ∨ mark = 'E' →
    accepts mark = false) (exponent : Option Exponent) {rest : List Char}
    (stops : Stops accepts rest) : Stops accepts (exponentText exponent ++ rest) := by
  cases exponent with
  | none => exact stops
  | some exponent => exact stops_cons.2 (noMark exponent.mark exponent.isMark)

theorem stops_isAsciiDigit_fractionText (fraction : Option Digits) {rest : List Char}
    (stops : Stops isAsciiDigit rest) : Stops isAsciiDigit (fractionText fraction ++ rest) := by
  cases fraction with
  | none => exact stops
  | some fraction => exact stops_cons.2 (by decide)

/-- A number is read behind its sign, if it has one. -/
theorem readParts_sign (negative : Bool) {magnitude : List Char}
    (noMinus : negative = false → ∀ more, magnitude ≠ '-' :: more) :
    readParts (sign negative ++ magnitude) = (do
      let (whole, rest) ← readWhole magnitude
      let (fraction, rest) ← readFraction rest
      let (exponent, rest) ← readExponent rest
      .ok ({ negative, whole, fraction, exponent }, rest)) := by
  cases negative with
  | true => exact readParts.eq_1 magnitude
  | false => exact readParts.eq_2 magnitude fun more same => noMinus rfl more same

/-- **The literal of a number is taken apart into its parts.** -/
theorem readParts_text (literal : NumberLiteral) {rest : List Char}
    (stops : Stops isNumberRest rest) :
    readParts (literal.text ++ rest) = .ok (literal.parts, rest) := by
  obtain ⟨negative, whole, zeroAlone, fraction, exponent⟩ := literal
  have isText : NumberLiteral.text ⟨negative, whole, zeroAlone, fraction, exponent⟩ ++ rest =
      sign negative ++ (whole.text ++ (fractionText fraction ++ (exponentText exponent ++ rest))) := by
    simp [NumberLiteral.text, NumberLiteral.magnitudeText]
  have noDigit : Stops isAsciiDigit (exponentText exponent ++ rest) :=
    stops_exponentText (by rintro _ (rfl | rfl) <;> decide) exponent (stops_isAsciiDigit stops)
  have noPoint : Stops (· == '.') (exponentText exponent ++ rest) :=
    stops_exponentText (by rintro _ (rfl | rfl) <;> decide) exponent (stops_point stops)
  rw [isText, readParts_sign negative fun _ more => (digits_ne_sign whole _ more).1,
    readWhole_text whole zeroAlone (stops_isAsciiDigit_fractionText fraction noDigit)]
  simp only [readFraction_text fraction noDigit noPoint, readExponent_text exponent stops, bind,
    Except.bind]
  rfl

/-- **What is taken apart is the literal of a number.** -/
theorem exists_numberLiteral {text rest : List Char} {parts : NumberParts}
    (isRead : readParts text = .ok (parts, rest)) :
    ∃ literal : NumberLiteral, literal.parts = parts ∧ text = literal.text ++ rest := by
  have signed : ∃ negative magnitude, text = sign negative ++ magnitude ∧
      (negative = false → ∀ more, magnitude ≠ '-' :: more) := by
    by_cases isMinus : ∃ magnitude, text = '-' :: magnitude
    · obtain ⟨magnitude, rfl⟩ := isMinus
      exact ⟨true, magnitude, rfl, nofun⟩
    · exact ⟨false, text, rfl, fun _ more same => isMinus ⟨more, same⟩⟩
  obtain ⟨negative, magnitude, rfl, noMinus⟩ := signed
  rw [readParts_sign negative noMinus] at isRead
  obtain ⟨⟨whole, behindWhole⟩, isWhole, isRead⟩ := bind_eq_ok_iff.1 isRead
  obtain ⟨⟨fraction, behindFraction⟩, isFraction, isRead⟩ := bind_eq_ok_iff.1 isRead
  obtain ⟨⟨exponent, behindExponent⟩, isExponent, isRead⟩ := bind_eq_ok_iff.1 isRead
  cases isRead
  obtain ⟨whole, rfl, zeroAlone, rfl⟩ := exists_whole isWhole
  obtain ⟨fraction, rfl, rfl⟩ := exists_fraction isFraction
  obtain ⟨exponent, rfl, rfl⟩ := exists_exponent isExponent
  exact ⟨⟨negative, whole, zeroAlone, fraction, exponent⟩, rfl,
    by simp [NumberLiteral.text, NumberLiteral.magnitudeText]⟩

end ExportAudit.Json
