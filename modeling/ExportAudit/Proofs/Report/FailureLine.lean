import ExportAudit.Report.Printed

/-!
# The line of failure

A validation in which some module did not pass closes its report with one line that says
so.  The line stands out: **no other line of the report both opens with the painted mark
of failure and ends as this line does.**  Lines of issues and of symbols, and the line of
success, open otherwise; headings and the count of problems, which may open with the same
mark, end otherwise.

So the line can be told from the rest of a report, whatever paths and messages its modules
bring along.
-/

namespace ExportAudit.Report

set_option autoImplicit false

open ExportAudit.Text ExportAudit.Analysis ExportAudit.Export

/-- The line that closes the report of a validation with failures. -/
def failureLine (style : OutputStyle) (failed count : Nat) : String :=
  let modules := pluralize count "module"
  let text := style.paint .red s!"{failed} of {modules} failed validation"
  s!"{markOf style false} {text}"

/-! ## Ends of lines -/

/-- A line ends in a character. -/
def EndsIn (line : String) (last : Char) : Prop :=
  line.toList.getLast? = some last

theorem EndsIn.unique {line : String} {last last' : Char} (ends : EndsIn line last)
    (ends' : EndsIn line last') : last = last' :=
  Option.some.inj (ends.symm.trans ends')

theorem EndsIn.append {back : String} {last : Char} (ends : EndsIn back last) (front : String) :
    EndsIn (front ++ back) last := by
  rw [EndsIn, String.toList_append, List.getLast?_append, ends, Option.some_or]

theorem endsIn_paint {style : OutputStyle} {paint : Paint} {text : String} {last : Char}
    (ends : EndsIn text last) :
    EndsIn (style.paint paint text) (if style.color then 'm' else last) := by
  have notEmpty : text ≠ "" := by
    rintro rfl
    cases ends
  cases color : style.color with
  | false => simpa [OutputStyle.paint, color] using ends
  | true =>
    simp only [OutputStyle.paint, color, if_true, Paint.apply, String.isEmpty_iff, notEmpty,
      if_false]
    exact EndsIn.append (by rfl) _

theorem endsIn_failureLine (style : OutputStyle) (failed count : Nat) :
    EndsIn (failureLine style failed count) (if style.color then 'm' else 'n') :=
  (endsIn_paint (EndsIn.append (by rfl) _)).append _

/-- A line ends in a character that the line of failure never ends in. -/
def EndsOtherwise (line : String) : Prop :=
  ∃ last, EndsIn line last ∧ last ≠ 'm' ∧ last ≠ 'n'

theorem ne_failureLine_of_endsOtherwise {style : OutputStyle} {line : String}
    (ends : EndsOtherwise line) (failed count : Nat) : line ≠ failureLine style failed count := by
  rintro rfl
  obtain ⟨last, ends, notPaint, notLetter⟩ := ends
  have same := ends.unique (endsIn_failureLine style failed count)
  split at same
  · exact notPaint same
  · exact notLetter same

theorem endsIn_pluralize (count : Nat) (noun : String) {last : Char} (ends : EndsIn noun last) :
    EndsIn (pluralize count noun) last ∨ EndsIn (pluralize count noun) 's' := by
  unfold pluralize
  split
  · exact .inl (ends.append _)
  · exact .inr (EndsIn.append (by rfl) _)

/-! ## Openings of lines -/

/-- A line begins with a character. -/
def BeginsWith (line : String) (first : Char) : Prop :=
  line.toList.head? = some first

theorem BeginsWith.append {front : String} {first : Char} (begins : BeginsWith front first)
    (back : String) : BeginsWith (front ++ back) first := by
  rw [BeginsWith, String.toList_append, List.head?_append, begins, Option.some_or]

/-- A line opens with the mark of failure. -/
def OpensWithFailure (style : OutputStyle) (line : String) : Prop :=
  (markOf style false).toList <+: line.toList

theorem opensWithFailure_failureLine (style : OutputStyle) (failed count : Nat) :
    OpensWithFailure style (failureLine style failed count) := by
  simp only [OpensWithFailure, failureLine, String.append_assoc]
  rw [String.toList_append]
  exact List.prefix_append _ _

theorem ne_failureLine_of_not_opens {style : OutputStyle} {line : String}
    (notOpens : ¬ OpensWithFailure style line) (failed count : Nat) :
    line ≠ failureLine style failed count := by
  rintro rfl
  exact notOpens (opensWithFailure_failureLine style failed count)

theorem opensWithFailure_iff (style : OutputStyle) (line : String) :
    OpensWithFailure style line ↔
      (if style.color then "\x1b[31m\u2718\x1b[0m" else "\u2718").toList <+: line.toList := by
  cases color : style.color <;>
    simp [OpensWithFailure, markOf, OutputStyle.paint, color, failureMark, Paint.apply, Paint.codes]

theorem BeginsWith.not_opens {style : OutputStyle} {line : String} {first : Char}
    (begins : BeginsWith line first) (notEscape : first ≠ '\x1b') (notMark : first ≠ '\u2718') :
    ¬ OpensWithFailure style line := by
  rw [opensWithFailure_iff]
  rintro ⟨rest, split⟩
  cases color : style.color <;> simp [BeginsWith, ← split, color] at begins
  · exact notMark begins.symm
  · exact notEscape begins.symm

theorem not_opens_of_blank {style : OutputStyle} {front : String} (blank : BeginsWith front ' ')
    (back : String) : ¬ OpensWithFailure style (front ++ back) :=
  (blank.append back).not_opens (by decide) (by decide)

theorem not_opens_severityText (style : OutputStyle) (severity : Severity) (rest : String) :
    ¬ OpensWithFailure style (severityText style severity ++ rest) := by
  rw [opensWithFailure_iff]
  cases color : style.color <;> cases severity <;>
    simp [severityText, OutputStyle.paint, color, Paint.apply, Paint.codes]

theorem not_opens_success (style : OutputStyle) (rest : String) :
    ¬ OpensWithFailure style (markOf style true ++ rest) := by
  rw [opensWithFailure_iff]
  cases color : style.color <;>
    simp [markOf, successMark, OutputStyle.paint, color, Paint.apply, Paint.codes]

theorem not_opens_empty {style : OutputStyle} : ¬ OpensWithFailure style "" := by
  rw [opensWithFailure_iff]
  cases color : style.color <;> simp

/-! ## The other lines -/

theorem endsOtherwise_validationHeading (style : OutputStyle) (result : ModuleValidation) :
    EndsOtherwise (validationHeading style result) := by
  cases status : result.status with
  | passed | mismatch =>
    simp only [validationHeading, status]
    exact ⟨'h', EndsIn.append (by rfl) _, by decide, by decide⟩
  | listed =>
    simp only [validationHeading, status]
    have noun : EndsIn "export" 't' := by rfl
    rcases endsIn_pluralize result.symbols.length "export" noun with ends | ends
    · exact ⟨'t', ends.append _, by decide, by decide⟩
    · exact ⟨'s', ends.append _, by decide, by decide⟩
  | failed =>
    simp only [validationHeading, status]
    exact ⟨'d', EndsIn.append (by rfl) _, by decide, by decide⟩

theorem endsOtherwise_of_mem_problemLines {style : OutputStyle} {outcome : Outcome}
    {line : String} (member : line ∈ problemLines style outcome) : EndsOtherwise line := by
  by_cases none : outcome.errorCount + outcome.warningCount = 0
  · simp [problemLines, none] at member
  · simp only [problemLines, none, if_false, List.mem_singleton] at member
    rw [member]
    exact ⟨')', EndsIn.append (EndsIn.append (by rfl) _) _, by decide, by decide⟩

theorem not_opens_of_mem_symbolLines {width : Width} {style : OutputStyle}
    {symbols : List Symbol} {line : String} (member : line ∈ symbolLines width symbols) :
    ¬ OpensWithFailure style line := by
  obtain ⟨symbol, -, rfl⟩ := List.mem_map.1 member
  simp only [String.append_assoc]
  exact not_opens_of_blank (by rfl) _

theorem not_opens_of_mem_issueLines {style : OutputStyle} {issue : Issue} {line : String}
    (member : line ∈ issueLines style issue) : ¬ OpensWithFailure style line := by
  simp only [issueLines, List.mem_append, List.mem_cons, List.not_mem_nil, or_false,
    List.mem_map, String.append_assoc] at member
  rcases member with ((rfl | rfl) | ⟨detail, -, rfl⟩) | ⟨hint, -, rfl⟩
  · exact not_opens_severityText style _ _
  · exact not_opens_of_blank (by rfl) _
  · exact not_opens_of_blank (by rfl) _
  · exact not_opens_of_blank (by rfl) _

/-- **No line of a module is the line of failure.** -/
theorem ne_failureLine_of_mem_validationLines {width : Width} {style : OutputStyle}
    {withTable : Bool} {result : ModuleValidation} {line : String}
    (member : line ∈ validationLines width style withTable result) (failed count : Nat) :
    line ≠ failureLine style failed count := by
  simp only [validationLines, List.mem_append, List.mem_singleton] at member
  rcases member with (rfl | member) | member
  · exact ne_failureLine_of_endsOtherwise (endsOtherwise_validationHeading style result) _ _
  · split at member
    · exact ne_failureLine_of_not_opens (not_opens_of_mem_symbolLines member) failed count
    · cases member
  · obtain ⟨issue, -, member⟩ := List.mem_flatMap.1 member
    exact ne_failureLine_of_not_opens (not_opens_of_mem_issueLines member) failed count

/-- **A line of failure is printed only if some module did not pass.** -/
theorem failedCount_pos_of_mem_validateLines {width : Width} {style : OutputStyle}
    {summary : ValidateSummary} {failed count : Nat}
    (member : failureLine style failed count ∈ validateLines width style summary) :
    0 < summary.failedCount := by
  refine Nat.pos_of_ne_zero fun none => ?_
  have opens := opensWithFailure_failureLine style failed count
  simp only [validateLines, none, Nat.lt_irrefl, if_false, List.mem_append] at member
  rcases member with (member | member) | member
  · obtain ⟨result, -, member⟩ := List.mem_flatMap.1 member
    exact ne_failureLine_of_mem_validationLines member failed count rfl
  · split at member
    · simp only [List.mem_cons, List.not_mem_nil, or_false, String.append_assoc] at member
      rcases member with empty | listed
      · rw [empty] at opens
        exact not_opens_empty opens
      · rw [listed] at opens
        have begins : BeginsWith "Listed " 'L' := by rfl
        exact (begins.append _).not_opens (by decide) (by decide) opens
    · cases member
  · split at member
    · simp only [List.mem_cons, List.not_mem_nil, or_false, String.append_assoc] at member
      rcases member with empty | success
      · rw [empty] at opens
        exact not_opens_empty opens
      · rw [success] at opens
        exact not_opens_success style _ opens
    · cases member

/-- **It closes the lines of the validation if some module did not pass.** -/
theorem failureLine_suffix_validateLines (width : Width) (style : OutputStyle)
    {summary : ValidateSummary} (someFailed : 0 < summary.failedCount) :
    ["", failureLine style summary.failedCount summary.modules.length] <:+
      validateLines width style summary := by
  simp only [validateLines, someFailed, if_true]
  exact List.suffix_append _ _

end ExportAudit.Report
