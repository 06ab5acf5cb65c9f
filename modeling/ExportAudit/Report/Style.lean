/-!
# Styles of output

A report is plain text or JSON, and plain text may be painted.  Paint is a pair of
escape sequences around a text; an empty text and an unpainted report have none.
**Widths are always taken before painting.**
-/

namespace ExportAudit.Report

set_option autoImplicit false

/-- The form of a report. -/
inductive OutputFormat where
  | text
  | json
  deriving DecidableEq, Repr

/-- The name of a form. -/
def OutputFormat.label : OutputFormat → String
  | .text => "text"
  | .json => "json"

/-- How a report is rendered. -/
structure OutputStyle where
  color : Bool := false
  format : OutputFormat := .text
  /-- Notes are printed too, and so are symbol tables. -/
  verbose : Bool := false
  deriving DecidableEq, Repr

/-- The paints in use. -/
inductive Paint where
  | bold
  | dimmed
  | red
  | green
  | blue
  | cyan
  | yellow
  | boldRed
  | boldYellow
  | boldCyan
  | dimmedCyan
  deriving DecidableEq, Repr

/-- The codes of a paint. -/
def Paint.codes : Paint → String
  | .bold => "1"
  | .dimmed => "2"
  | .red => "31"
  | .green => "32"
  | .yellow => "33"
  | .blue => "34"
  | .cyan => "36"
  | .boldRed => "1;31"
  | .boldYellow => "1;33"
  | .boldCyan => "1;36"
  | .dimmedCyan => "2;36"

/-- A text between the sequences of a paint. -/
def Paint.apply (paint : Paint) (text : String) : String :=
  if text.isEmpty then text else "\x1b[" ++ paint.codes ++ "m" ++ text ++ "\x1b[0m"

/-- A text in a paint, if the style has color. -/
def OutputStyle.paint (style : OutputStyle) (paint : Paint) (text : String) : String :=
  if style.color then paint.apply text else text

end ExportAudit.Report
