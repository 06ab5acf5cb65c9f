import ExportAudit.Proofs.Text.Lines
import ExportAudit.Proofs.Text.Trimmed

/-!
# Blank lines

A text is blank if all its characters are, and so is a line.  The two are judged apart, on
the whole text and on its lines, and some blanks separate lines elsewhere but end none here.
What ends a line is itself blank, the newline and the return before it.  **So a text is blank
exactly if all its lines are.**

A text that is not blank therefore has a first line that is not, and trimming the lines finds
the core of that one.
-/

namespace ExportAudit.Text

set_option autoImplicit false

variable {text : List Char}

theorem all_growFirst (accepts : Char → Bool) (c : Char) (pieces : List (List Char)) :
    (growFirst c pieces).all (·.all accepts) = (accepts c && pieces.all (·.all accepts)) := by
  cases pieces with
  | nil => simp [growFirst]
  | cons piece pieces => simp [growFirst, Bool.and_assoc]

/-- **A text is blank exactly if all its lines are.** -/
theorem all_allBlank_lines (text : List Char) : (lines text).all allBlank = allBlank text := by
  fun_induction lines text with
  | case1 => rfl
  | case2 rest ih => exact ih
  | case3 rest ih => exact ih
  | case4 c rest _ _ ih =>
    have split : (growFirst c (lines rest)).all allBlank =
        (isBlank c && (lines rest).all allBlank) := all_growFirst isBlank c (lines rest)
    rw [split, ih]
    rfl

/-- A text has a first line that is not blank, and that line has a core. -/
inductive FirstCore (text core : List Char) : Prop where
  | intro {earlier later : List (List Char)} {line : List Char}
      (isLines : lines text = earlier ++ line :: later)
      (blankBefore : ∀ other ∈ earlier, allBlank other = true)
      (isCore : IsCore core line) : FirstCore text core

/-- The first line of which trimming leaves something is the first that is not blank. -/
theorem firstCore_of_find? {core : List Char}
    (found : ((lines text).map trim).find? (!·.isEmpty) = some core) : FirstCore text core := by
  obtain ⟨nonempty, before, after, isMap, emptyBefore⟩ := List.find?_eq_some_iff_append.1 found
  obtain ⟨earlier, others, isLines, isBefore, isRest⟩ := List.map_eq_append_iff.1 isMap
  obtain ⟨line, later, rfl, rfl, -⟩ := List.map_eq_cons_iff.1 isRest
  refine .intro isLines (fun other member => ?_) (isCore_trim ?_)
  · have empty := emptyBefore (trim other) (isBefore ▸ List.mem_map_of_mem member)
    exact trim_eq_nil_iff.1 (by simpa using empty)
  · rw [← Bool.not_eq_true, ← trim_eq_nil_iff]
    simpa using nonempty

/-- **A text that is not blank has a first line that is not**, and trimming the lines finds
it. -/
theorem exists_firstCore (notBlank : allBlank text = false) :
    ∃ core, ((lines text).map trim).find? (!·.isEmpty) = some core ∧ FirstCore text core := by
  rw [← all_allBlank_lines, List.all_eq_false] at notBlank
  obtain ⟨line, member, lineNotBlank⟩ := notBlank
  have leaves : (((lines text).map trim).find? (!·.isEmpty)).isSome = true := by
    refine List.find?_isSome.2 ⟨trim line, List.mem_map_of_mem member, ?_⟩
    rw [← trim_eq_nil_iff] at lineNotBlank
    simpa using lineNotBlank
  obtain ⟨core, found⟩ := Option.isSome_iff_exists.1 leaves
  exact ⟨core, found, firstCore_of_find? found⟩

end ExportAudit.Text
