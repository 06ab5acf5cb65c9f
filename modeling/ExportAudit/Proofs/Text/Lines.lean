import ExportAudit.Text.Pieces

/-!
# Texts put together line by line

A text that is empty or ends in a newline is a number of whole lines, so the lines of
what follows it do not depend on it.  **Putting such a text in front of another puts its
lines in front of the other's lines.**
-/

namespace ExportAudit.Text

set_option autoImplicit false

/-- A text of whole lines: it is empty, or it ends in a newline. -/
def WholeLines (text : List Char) : Prop :=
  text = [] ∨ text.getLast? = some '\n'

instance (text : List Char) : Decidable (WholeLines text) :=
  inferInstanceAs (Decidable (_ ∨ _))

theorem WholeLines.tail {c : Char} {rest : List Char} (whole : WholeLines (c :: rest)) :
    WholeLines rest := by
  rcases whole with empty | ended
  · cases empty
  · cases rest with
    | nil => exact .inl rfl
    | cons next rest => exact .inr (by simpa [List.getLast?_cons_cons] using ended)

/-- What is left of whole lines before their end is not empty. -/
theorem WholeLines.tail_ne_nil {c : Char} {rest : List Char} (whole : WholeLines (c :: rest))
    (other : c ≠ '\n') : rest ≠ [] := by
  rintro rfl
  rcases whole with empty | ended
  · cases empty
  · exact other (by simpa using ended)

theorem growFirst_append {c : Char} {pieces : List (List Char)} (nonempty : pieces ≠ [])
    (others : List (List Char)) :
    growFirst c (pieces ++ others) = growFirst c pieces ++ others := by
  cases pieces with
  | nil => exact absurd rfl nonempty
  | cons piece pieces => rfl

/-- A character that does not end a line continues it. -/
theorem lines_cons {c : Char} {rest : List Char} (notNewline : c ≠ '\n')
    (notEnd : ∀ after, c = '\r' → rest ≠ '\n' :: after) :
    lines (c :: rest) = growFirst c (lines rest) :=
  lines.eq_4 c rest notNewline notEnd

theorem lines_ne_nil {text : List Char} (nonempty : text ≠ []) : lines text ≠ [] := by
  fun_cases lines text with
  | case1 => exact absurd rfl nonempty
  | case2 rest => simp
  | case3 rest => simp
  | case4 c rest notNewline notReturn =>
    cases lines rest <;> simp [growFirst]

/-- **The lines of a text behind whole lines come after theirs.** -/
theorem lines_append {first : List Char} (whole : WholeLines first) (second : List Char) :
    lines (first ++ second) = lines first ++ lines second := by
  fun_induction lines first with
  | case1 => rfl
  | case2 rest ih => simp [lines, ih whole.tail]
  | case3 rest ih => simp [lines, ih whole.tail.tail]
  | case4 c rest notNewline notReturn ih =>
    have rest_ne : rest ≠ [] := whole.tail_ne_nil notNewline
    obtain ⟨next, rest, rfl⟩ := List.exists_cons_of_ne_nil rest_ne
    have unfolded : lines (c :: next :: rest ++ second) =
        growFirst c (lines (next :: rest ++ second)) := by
      refine lines_cons notNewline fun after isReturn starts => ?_
      exact notReturn rest isReturn (by rw [(List.cons.inj starts).1])
    rw [unfolded, ih whole.tail, growFirst_append (lines_ne_nil rest_ne)]

/-! ## Single lines -/

/-- A text that a newline behind it makes one line: it holds no newline, and it does not end
in a carriage return, which would belong to the line's end. -/
def IsLine (text : List Char) : Prop :=
  '\n' ∉ text ∧ text.getLast? ≠ some '\r'

instance (text : List Char) : Decidable (IsLine text) :=
  inferInstanceAs (Decidable (_ ∧ _))

/-- A line without the carriage return that belongs to its end. -/
def dropReturn (line : List Char) : List Char :=
  if line.getLast? = some '\r' then line.dropLast else line

theorem IsLine.dropReturn_eq {line : List Char} (isLine : IsLine line) : dropReturn line = line :=
  if_neg isLine.2

theorem dropReturn_cons_cons (c d : Char) (rest : List Char) :
    dropReturn (c :: d :: rest) = c :: dropReturn (d :: rest) := by
  rw [dropReturn, dropReturn, List.getLast?_cons_cons, List.dropLast_cons_cons]
  split <;> rfl

/-- **A line and a newline are cut off a text as one line**, less the return before the
newline. -/
theorem lines_newline {line : List Char} (noNewline : '\n' ∉ line) (rest : List Char) :
    lines (line ++ '\n' :: rest) = dropReturn line :: lines rest := by
  induction line with
  | nil => rfl
  | cons c line ih =>
    have notNewline : c ≠ '\n' := (List.ne_of_not_mem_cons noNewline).symm
    have noNewlineBehind := List.not_mem_of_not_mem_cons noNewline
    cases line with
    | nil =>
      by_cases isReturn : c = '\r'
      · rw [isReturn]
        rfl
      · rw [List.cons_append, lines_cons notNewline fun _ same => absurd same isReturn,
          ih noNewlineBehind]
        simp [growFirst, dropReturn, isReturn]
    | cons d line =>
      have goesOn : ∀ after, c = '\r' → d :: line ++ '\n' :: rest ≠ '\n' :: after := by
        intro after _ starts
        exact noNewlineBehind (by simp [(List.cons.inj starts).1])
      rw [List.cons_append, lines_cons notNewline goesOn, ih noNewlineBehind, growFirst,
        dropReturn_cons_cons]

theorem lines_line {line : List Char} (isLine : IsLine line) (rest : List Char) :
    lines (line ++ '\n' :: rest) = line :: lines rest := by
  rw [lines_newline isLine.1, isLine.dropReturn_eq]

/-- The last line of a text needs no newline. -/
theorem lines_last {line : List Char} (nonempty : line ≠ []) (noNewline : '\n' ∉ line) :
    lines line = [line] := by
  induction line with
  | nil => exact absurd rfl nonempty
  | cons c line ih =>
    have notNewline : c ≠ '\n' := (List.ne_of_not_mem_cons noNewline).symm
    have noNewlineBehind := List.not_mem_of_not_mem_cons noNewline
    rw [lines_cons notNewline fun after _ starts => noNewlineBehind (by simp [starts])]
    cases line with
    | nil => rfl
    | cons d line => rw [ih (List.cons_ne_nil d line) noNewlineBehind, growFirst]

/-- A text is some whole lines and a last line without a newline. -/
theorem exists_wholeLines (text : List Char) :
    ∃ front last, text = front ++ last ∧ WholeLines front ∧ '\n' ∉ last := by
  induction text with
  | nil => exact ⟨[], [], rfl, .inl rfl, List.not_mem_nil⟩
  | cons c text ih =>
    obtain ⟨front, last, rfl, rfl | ended, noNewline⟩ := ih
    · by_cases newline : c = '\n'
      · exact ⟨[c], last, rfl, .inr (by simp [newline]), noNewline⟩
      · exact ⟨[], c :: last, rfl, .inl rfl, by simp [noNewline, Ne.symm newline]⟩
    · refine ⟨c :: front, last, rfl, .inr ?_, noNewline⟩
      rw [List.getLast?_cons, ended, Option.getD_some]

/-- **Only the last line of a text is changed by a newline and what stands behind it**: it
loses its return, and it becomes a line if it was empty. -/
theorem exists_lines_append_newline (first second : List Char) :
    ∃ front last, '\n' ∉ last ∧ lines first = front ++ lines last ∧
      lines (first ++ '\n' :: second) = front ++ dropReturn last :: lines second := by
  obtain ⟨front, last, rfl, whole, noNewline⟩ := exists_wholeLines first
  refine ⟨lines front, last, noNewline, lines_append whole last, ?_⟩
  rw [List.append_assoc, lines_append whole, lines_newline noNewline]

/-- **Lines with newlines between them are the lines of the text they make**, with or without
a newline behind the last. -/
theorem lines_intercalate {list : List (List Char)} (nonempty : list ≠ [])
    (isLine : ∀ line ∈ list, IsLine line) (noneEmpty : ∀ line ∈ list, line ≠ []) (ended : Bool) :
    lines (['\n'].intercalate list ++ if ended then ['\n'] else []) = list := by
  induction list with
  | nil => exact absurd rfl nonempty
  | cons line later ih =>
    obtain ⟨firstIsLine, laterIsLine⟩ := List.forall_mem_cons.1 isLine
    obtain ⟨firstNotEmpty, laterNotEmpty⟩ := List.forall_mem_cons.1 noneEmpty
    cases later with
    | nil =>
      rw [List.intercalate_singleton]
      cases ended with
      | false => simpa using lines_last firstNotEmpty firstIsLine.1
      | true => simpa [lines] using lines_line firstIsLine []
    | cons next later =>
      have split := List.cons_ne_nil next later
      rw [List.intercalate_cons_of_ne_nil split, List.append_assoc, List.append_assoc,
        List.singleton_append, lines_line firstIsLine, ih split laterIsLine laterNotEmpty]

end ExportAudit.Text
