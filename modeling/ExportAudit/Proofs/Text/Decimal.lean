import ExportAudit.Text.Digit
import ExportAudit.Text.Word

/-!
# Numbers written and read back

A number is written with its decimal digits, without leading zeros.  Every such digit is
an ASCII digit and so a digit of the table of all scripts, and **a number of 32 bits is
the one that its digits name.**
-/

namespace ExportAudit.Text

set_option autoImplicit false

/-- The decimal digits of a number. -/
def decimal (number : Nat) : List Char :=
  Nat.toDigits 10 number

theorem decimal_ne_nil (number : Nat) : decimal number ≠ [] :=
  Nat.toDigits_ne_nil

/-- Reading ASCII digits after a value is reading them into it. -/
theorem decimalFrom?_eq {digits : List Char} (ascii : ∀ c ∈ digits, isAsciiDigit c = true)
    (value : Nat) : decimalFrom? value digits = some (Nat.ofDigitChars 10 digits value) := by
  induction digits generalizing value with
  | nil => rfl
  | cons c digits ih =>
    have isDigit : ('0' ≤ c && c ≤ '9') = true := ascii c List.mem_cons_self
    rw [decimalFrom?, digitValue?, if_pos isDigit, Nat.ofDigitChars_cons]
    exact ih (fun d member => ascii d (List.mem_cons_of_mem c member)) _

theorem isAsciiDigit_of_mem_decimal {number : Nat} {c : Char} (member : c ∈ decimal number) :
    isAsciiDigit c = true := by
  have digit := Nat.isDigit_of_mem_toDigits (by decide) (by decide) member
  simpa [Char.isDigit, isAsciiDigit, Char.le_def, UInt32.le_iff_toNat_le] using digit

theorem isDigit_of_isAsciiDigit {c : Char} (digit : isAsciiDigit c = true) : isDigit c = true := by
  simp only [isAsciiDigit, Bool.and_eq_true, decide_eq_true_eq, Char.le_def,
    UInt32.le_iff_toNat_le] at digit
  refine Ranges.has_iff.2 ⟨(0x30, 0x39), List.mem_cons_self, ?_⟩
  exact digit

theorem decimal_of_lt {number : Nat} (small : number < 10) :
    decimal number = [Nat.digitChar number] :=
  Nat.toDigits_of_lt_base small

theorem decimal_of_le {number : Nat} (large : 10 ≤ number) :
    decimal number = decimal (number / 10) ++ [Nat.digitChar (number % 10)] :=
  Nat.toDigits_of_base_le (by decide) large

/-- **No number of several digits is written with a zero in front.** -/
theorem head?_decimal_ne_zero {number : Nat} (large : 10 ≤ number) :
    (decimal number).head? ≠ some '0' := by
  have positive : 1 ≤ number / 10 := (Nat.one_le_div_iff (by decide)).2 large
  have first : (decimal number).head? = (decimal (number / 10)).head? := by
    obtain ⟨c, more, isCons⟩ := List.exists_cons_of_ne_nil (decimal_ne_nil (number / 10))
    rw [decimal_of_le large, isCons]
    rfl
  rw [first]
  by_cases small : number / 10 < 10
  · rw [decimal_of_lt small]
    have apart : ∀ digit < 10, 1 ≤ digit → Nat.digitChar digit ≠ '0' := by decide
    simpa using apart _ small positive
  · exact head?_decimal_ne_zero (Nat.not_lt.1 small)

/-- **The digits of a 32-bit number name it.** -/
theorem lineNumber?_decimal {number : Nat} (small : number ≤ maxLineNumber) :
    lineNumber? (decimal number) = some number := by
  have value : Nat.ofDigitChars 10 (decimal number) 0 = number :=
    Nat.ofDigitChars_toDigits (by decide) (by decide)
  rw [lineNumber?, if_neg (by simpa using decimal_ne_nil number),
    decimalFrom?_eq fun c member => isAsciiDigit_of_mem_decimal member, value]
  exact if_pos small

end ExportAudit.Text
