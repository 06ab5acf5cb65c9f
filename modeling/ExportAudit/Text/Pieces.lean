import ExportAudit.Text.Blank

/-!
# Cutting a text into pieces

Two ways to cut a text: into its lines, and into its tokens.

A line ends at a newline, and one carriage return directly before that newline
belongs to the line's end and not to the line.  Nothing else ends a line, the
last line needs no newline, and a newline at the very end starts no further
line.  A token is a maximal run of characters that are not blank.

Both cuts are plain recursions that put each character in front of the piece it
starts or continues.
-/

namespace ExportAudit.Text

set_option autoImplicit false

/-- Puts a character in front of the first piece. -/
def growFirst (c : Char) : List (List Char) → List (List Char)
  | [] => [[c]]
  | piece :: pieces => (c :: piece) :: pieces

/-! ## Lines -/

/-- The lines of a text. -/
def lines : List Char → List (List Char)
  | [] => []
  | '\n' :: rest => [] :: lines rest
  | '\r' :: '\n' :: rest => [] :: lines rest
  | c :: rest => growFirst c (lines rest)

/-! ## Tokens -/

/-- The tokens of a text, in order.  A token ends where the text does or a blank follows. -/
def tokens : List Char → List (List Char)
  | [] => []
  | c :: rest =>
    if isBlank c then tokens rest
    else if rest.head?.all isBlank then [c] :: tokens rest
    else growFirst c (tokens rest)

/-- **Tokens hold no blank and are not empty.** -/
theorem tokens_spec (text : List Char) :
    ∀ token ∈ tokens text, token ≠ [] ∧ token.all (fun c => !isBlank c) = true := by
  induction text with
  | nil => simp [tokens]
  | cons c rest ih =>
    rw [tokens]
    split
    · exact ih
    · next blank =>
      split
      · intro token member
        rcases List.mem_cons.1 member with rfl | member
        · simp [blank]
        · exact ih token member
      · intro token member
        cases h : tokens rest with
        | nil =>
          rw [h] at member
          simp only [growFirst, List.mem_singleton] at member
          simp [member, blank]
        | cons first others =>
          rw [h] at member ih
          simp only [growFirst, List.mem_cons] at member
          rcases member with rfl | member
          · simpa [blank] using (ih first (List.mem_cons_self ..)).2
          · exact ih token (List.mem_cons_of_mem _ member)

end ExportAudit.Text
