/-!
# Blanks

A blank is any character that separates words: the white space of every script,
line separators included.  Neither the zero width space nor the byte order mark
is one.
-/

namespace ExportAudit.Text

set_option autoImplicit false

/-- The code points of blanks. -/
def isBlankCode (code : Nat) : Bool :=
  (9 ≤ code && code ≤ 13) || code == 0x20 || code == 0x85 || code == 0xA0 || code == 0x1680 ||
    (0x2000 ≤ code && code ≤ 0x200A) || code == 0x2028 || code == 0x2029 || code == 0x202F ||
    code == 0x205F || code == 0x3000

/-- A character that separates words. -/
def isBlank (c : Char) : Bool :=
  isBlankCode c.toNat

/-- A text without the blanks in front. -/
def trimStart (text : List Char) : List Char :=
  text.dropWhile isBlank

/-- A text without the characters of a class behind. -/
def dropEndWhile (accepts : Char → Bool) (text : List Char) : List Char :=
  text.foldr (fun c kept => if kept.isEmpty && accepts c then [] else c :: kept) []

/-- A text without the blanks behind. -/
def trimEnd (text : List Char) : List Char :=
  dropEndWhile isBlank text

/-- A text without the blanks on either side. -/
def trim (text : List Char) : List Char :=
  trimEnd (trimStart text)

/-- A text of blanks only. -/
def allBlank (text : List Char) : Bool :=
  text.all isBlank

/-- **Dropping from the end loses only characters of the class.** -/
theorem dropEndWhile_append (accepts : Char → Bool) (text : List Char) :
    ∃ lost, lost.all accepts = true ∧ dropEndWhile accepts text ++ lost = text := by
  induction text with
  | nil => exact ⟨[], rfl, rfl⟩
  | cons c rest ih =>
    obtain ⟨lost, inClass, whole⟩ := ih
    have step : dropEndWhile accepts (c :: rest) =
        if (dropEndWhile accepts rest).isEmpty && accepts c then []
        else c :: dropEndWhile accepts rest := rfl
    rw [step]
    split
    · next h =>
      simp only [Bool.and_eq_true, List.isEmpty_iff] at h
      refine ⟨c :: lost, by simp [h.2, inClass], ?_⟩
      rw [h.1, List.nil_append] at whole
      simp [whole]
    · exact ⟨lost, inClass, by simp [whole]⟩

end ExportAudit.Text
