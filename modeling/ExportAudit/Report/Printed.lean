import ExportAudit.Report.Json
import ExportAudit.Report.Text

/-!
# What a report prints

A report goes to the output, laid out for a terminal by the width that texts have there;
notes go to the other channel, and only when asked for.
An initialisation prints one line in either form, **to the output if it created its
file and to the other channel if it did not.**
-/

namespace ExportAudit.Report

set_option autoImplicit false

open ExportAudit.Text

/-- What is printed on the two channels. -/
structure Printed where
  output : String
  errors : String
  deriving DecidableEq, Repr

/-- Lines as a text. -/
def ofLines (lines : List String) : String :=
  String.join (lines.map (· ++ "\n"))

/-- What an initialisation prints. -/
def printInit (style : OutputStyle) (summary : InitSummary) : Printed :=
  match summary.error with
  | some error => { output := "", errors := ofLines [s!"Error: {error}"] }
  | none => { output := ofLines [createdLine style summary.path], errors := "" }

/-- What the report of an outcome prints, notes apart. -/
def printReport (width : Width) (style : OutputStyle) (outcome : Outcome) : Printed :=
  match outcome.summary, style.format with
  | .init summary, _ => printInit style summary
  | summary, .json => { output := ofLines [summary.toJson.pretty], errors := "" }
  | .validate summary, .text =>
    { output := ofLines (validateLines width style summary ++ problemLines style outcome)
      errors := "" }
  | .coverage summary, .text =>
    { output := ofLines (coverageLines width style summary ++ problemLines style outcome)
      errors := "" }

/-- What an outcome prints. -/
def Outcome.print (outcome : Outcome) (width : Width) (style : OutputStyle) : Printed :=
  let notes := if style.verbose then ofLines (notesLines style outcome.summary) else ""
  let report := printReport width style outcome
  { report with errors := notes ++ report.errors }

end ExportAudit.Report
