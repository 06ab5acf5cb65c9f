import ExportAudit.Text.Blank
import ExportAudit.Text.Word

/-!
# Identifiers

The characters of an identifier lie in four stretches of ASCII.  **Whatever is told apart
from an identifier by one character lies outside the four**: digits in front, and every mark
of the printed forms.

Blanks and colons lie outside the words of every script, so they end an identifier as they
end any other word.
-/

namespace ExportAudit.Text

set_option autoImplicit false

variable {c : Char} {text : List Char}

/-! ## Characters -/

/-- The code points of the letters and the low line. -/
theorem isIdentStart_code (start : isIdentStart c = true) :
    (97 ≤ c.toNat ∧ c.toNat ≤ 122) ∨ (65 ≤ c.toNat ∧ c.toNat ≤ 90) ∨ c.toNat = 95 := by
  simp only [isIdentStart, isAsciiLetter, Bool.or_eq_true, Bool.and_eq_true, decide_eq_true_eq,
    beq_iff_eq, Char.le_def, UInt32.le_iff_toNat_le] at start
  rcases start with (lower | upper) | rfl
  · exact .inl lower
  · exact .inr (.inl upper)
  · exact .inr (.inr rfl)

theorem isAsciiDigit_code (digit : isAsciiDigit c = true) : 48 ≤ c.toNat ∧ c.toNat ≤ 57 := by
  simp only [isAsciiDigit, Bool.and_eq_true, decide_eq_true_eq, Char.le_def,
    UInt32.le_iff_toNat_le] at digit
  exact digit

theorem isIdentRest_of_isIdentStart (start : isIdentStart c = true) : isIdentRest c = true := by
  simp [isIdentRest, start]

theorem isAsciiDigit_eq_false_of_isIdentStart (start : isIdentStart c = true) :
    isAsciiDigit c = false := by
  rw [Bool.eq_false_iff]
  intro digit
  have := isIdentStart_code start
  have := isAsciiDigit_code digit
  omega

/-! ## Words -/

/-- The code points of blanks, one by one. -/
def blankCodes : List Nat :=
  [9, 10, 11, 12, 13, 0x20, 0x85, 0xA0, 0x1680, 0x2000, 0x2001, 0x2002, 0x2003, 0x2004, 0x2005,
   0x2006, 0x2007, 0x2008, 0x2009, 0x200A, 0x2028, 0x2029, 0x202F, 0x205F, 0x3000]

theorem mem_blankCodes {code : Nat} (blank : isBlankCode code = true) : code ∈ blankCodes := by
  simp only [isBlankCode, Bool.or_eq_true, Bool.and_eq_true, decide_eq_true_eq, beq_iff_eq]
    at blank
  simp only [blankCodes, List.mem_cons, List.not_mem_nil, or_false]
  omega

/-- **No word character of any script is a blank.** -/
theorem isBlank_eq_false_of_isWord (word : isWord c = true) : isBlank c = false := by
  rw [Bool.eq_false_iff]
  intro blank
  have isCode := mem_blankCodes blank
  have noWord : ∀ code ∈ blankCodes, isWord (Char.ofNat code) = false := by
    decide +kernel
  have notWord := noWord c.toNat isCode
  rw [Char.ofNat_toNat, word] at notWord
  cases notWord

/-- A word character is no colon. -/
theorem ne_colon_of_isWord (word : isWord c = true) : c ≠ ':' := by
  rintro rfl
  exact absurd word (by decide)

/-! ## Texts -/

theorem isIdentifier_cons {rest : List Char} : isIdentifier (c :: rest) = true ↔
    isIdentStart c = true ∧ ∀ d ∈ rest, isIdentRest d = true := by
  rw [isIdentifier, Bool.and_eq_true, List.all_eq_true]

theorem ne_nil_of_isIdentifier (identifier : isIdentifier text = true) : text ≠ [] := by
  rintro rfl
  simp [isIdentifier] at identifier

theorem isIdentRest_of_isIdentifier (identifier : isIdentifier text = true) :
    ∀ c ∈ text, isIdentRest c = true := by
  cases text with
  | nil => simp
  | cons first rest =>
    obtain ⟨start, goesOn⟩ := isIdentifier_cons.1 identifier
    simp only [List.mem_cons]
    rintro c (rfl | member)
    · exact isIdentRest_of_isIdentStart start
    · exact goesOn c member

end ExportAudit.Text
