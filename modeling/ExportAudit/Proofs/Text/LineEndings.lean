import ExportAudit.Proofs.Text.Lines
import ExportAudit.Proofs.Text.Runs
import ExportAudit.Text.Word

/-!
# Two ways to end a line

The same text may be stored with a newline at the end of each line or with a carriage
return and a newline.  Cutting a text into lines drops the return, so **a text without
returns of its own has the same lines either way.**

A search over the raw text does see the returns.  It answers the same if it never answers
at a newline, if no answer reaches over one, and if it looks at what follows only up to
the end of a line: then the returns stand where the search passes over the text anyway.
-/

namespace ExportAudit.Text

set_option autoImplicit false

/-- A text with a carriage return put in front of every newline. -/
def addReturns (text : List Char) : List Char :=
  text.flatMap fun c => if c = '\n' then ['\r', '\n'] else [c]

/-- A stored text with a carriage return in front of every newline. -/
def withReturns (text : String) : String :=
  String.ofList (addReturns text.toList)

/-- A text without newlines and carriage returns. -/
def OnOneLine (text : List Char) : Prop :=
  ∀ c ∈ text, c ≠ '\n' ∧ c ≠ '\r'

instance (text : List Char) : Decidable (OnOneLine text) :=
  decidable_of_iff (text.all (fun c => c != '\n' && c != '\r') = true) (by simp [OnOneLine])

@[simp]
theorem addReturns_newline (rest : List Char) :
    addReturns ('\n' :: rest) = '\r' :: '\n' :: addReturns rest := by
  simp [addReturns]

@[simp]
theorem addReturns_cons {c : Char} (other : c ≠ '\n') (rest : List Char) :
    addReturns (c :: rest) = c :: addReturns rest := by
  simp [addReturns, other]

@[simp]
theorem toList_withReturns (text : String) :
    (withReturns text).toList = addReturns text.toList := by
  simp [withReturns]

theorem addReturns_append (first second : List Char) :
    addReturns (first ++ second) = addReturns first ++ addReturns second :=
  List.flatMap_append

/-- Without newlines nothing is put in. -/
theorem addReturns_eq_self {text : List Char} (noNewline : '\n' ∉ text) :
    addReturns text = text := by
  induction text with
  | nil => rfl
  | cons c rest ih =>
    rw [addReturns_cons (List.ne_of_not_mem_cons noNewline).symm,
      ih (List.not_mem_of_not_mem_cons noNewline)]

theorem OnOneLine.append {first second : List Char} (left : OnOneLine first)
    (right : OnOneLine second) : OnOneLine (first ++ second) := by
  intro c member
  rcases List.mem_append.1 member with member | member
  · exact left c member
  · exact right c member

theorem OnOneLine.newline_notMem {text : List Char} (oneLine : OnOneLine text) : '\n' ∉ text :=
  fun member => (oneLine '\n' member).1 rfl

/-- A word character ends no line. -/
theorem ne_newline_of_isWord {c : Char} (word : isWord c = true) : c ≠ '\n' := by
  rintro rfl
  exact absurd word (by decide)

/-! ## Lines -/

/-- **The lines of a text do not tell how they were ended.** -/
theorem lines_addReturns {text : List Char} (noReturn : '\r' ∉ text) :
    lines (addReturns text) = lines text := by
  fun_induction lines text with
  | case1 => rfl
  | case2 rest ih => rw [addReturns_newline, lines, ih (List.not_mem_of_not_mem_cons noReturn)]
  | case3 rest => exact absurd List.mem_cons_self noReturn
  | case4 c rest notNewline notReturn ih =>
    have notReturn : c ≠ '\r' := fun same => noReturn (same ▸ List.mem_cons_self)
    rw [addReturns_cons notNewline, lines_cons notNewline fun _ same => absurd same notReturn,
      ih (List.not_mem_of_not_mem_cons noReturn)]

/-! ## What stands at the head -/

/-- A lead on one line is found in front of the same texts. -/
theorem after?_addReturns {lead : List Char} (oneLine : OnOneLine lead) (text : List Char) :
    after? lead (addReturns text) = (after? lead text).map addReturns := by
  induction lead generalizing text with
  | nil => rfl
  | cons a lead ih =>
    obtain ⟨notNewline, notReturn⟩ := oneLine a List.mem_cons_self
    cases text with
    | nil => rfl
    | cons c rest =>
      by_cases newline : c = '\n'
      · rw [newline, addReturns_newline, after?, after?, if_neg notReturn, if_neg notNewline]
        rfl
      · rw [addReturns_cons newline, after?, after?,
          ih fun d member => oneLine d (List.mem_cons_of_mem a member)]
        split <;> rfl

/-- A return is no word character, so it makes no word boundary that the newline made not. -/
theorem isBoundary_addReturns (before : Option Char) (text : List Char) :
    isBoundary before (addReturns text).head? = isBoundary before text.head? := by
  cases text with
  | nil => rfl
  | cons c rest =>
    by_cases newline : c = '\n'
    · rw [newline, addReturns_newline, List.head?_cons, List.head?_cons, isBoundary, isBoundary]
      rfl
    · rw [addReturns_cons newline, List.head?_cons, List.head?_cons]

/-! ## Searches -/

variable {α : Type} {accept : Option Char → List Char → Option (α × Nat)}

/-- A search that cannot tell how lines are ended. -/
structure IgnoresReturns (accept : Option Char → List Char → Option (α × Nat)) : Prop where
  same : ∀ before text, accept before (addReturns text) = accept before text
  within : ∀ {before text answer used}, accept before text = some (answer, used) →
    '\n' ∉ text.take used
  newline : ∀ before rest, accept before ('\n' :: rest) = none

namespace IgnoresReturns

theorem allFrom_addReturns (ignores : IgnoresReturns accept) {skip : Nat} {text : List Char}
    (before : Option Char) (noNewline : '\n' ∉ text.take skip) :
    allFrom accept skip before (addReturns text) = allFrom accept skip before text := by
  induction text generalizing skip before with
  | nil => rfl
  | cons c rest ih =>
    cases skip with
    | succ skip =>
      rw [List.take_succ_cons] at noNewline
      rw [addReturns_cons (List.ne_of_not_mem_cons noNewline).symm, allFrom, allFrom,
        ih _ (List.not_mem_of_not_mem_cons noNewline)]
    | zero =>
      by_cases newline : c = '\n'
      · -- the search stops neither at the return nor at the newline behind it
        subst newline
        have atReturn : accept before ('\r' :: '\n' :: addReturns rest) = none := by
          rw [← addReturns_newline, ignores.same, ignores.newline]
        rw [addReturns_newline, allFrom, atReturn, allFrom, ignores.newline, allFrom,
          ignores.newline]
        exact ih _ (by simp)
      · have same := ignores.same before (c :: rest)
        rw [addReturns_cons newline] at same ⊢
        rw [allFrom, allFrom, same]
        cases found : accept before (c :: rest) with
        | none => exact ih _ (by simp)
        | some answer =>
          obtain ⟨answer, used⟩ := answer
          have unbroken := ignores.within found
          have skipped : '\n' ∉ rest.take (used - 1) := by
            cases used with
            | zero => simp
            | succ used =>
              rw [List.take_succ_cons] at unbroken
              exact List.not_mem_of_not_mem_cons unbroken
          exact congrArg (answer :: ·) (ih _ skipped)

/-- **Such a search answers the same on both texts.** -/
theorem all_addReturns (ignores : IgnoresReturns accept) (text : List Char) :
    all accept (addReturns text) = all accept text :=
  ignores.allFrom_addReturns none (by simp)

end IgnoresReturns

end ExportAudit.Text
