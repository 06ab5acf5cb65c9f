import ExportAudit.Analysis.Coverage

/-!
# The outcome of a command

A command ends with a summary of what it did.  The outcome counts the errors and
warnings among the issues of all modules, and an error of a command itself counts as
one more.  Validation and initialisation fail on errors, coverage only informs, **so
its exit status is success whatever it found.**
-/

namespace ExportAudit.Report

set_option autoImplicit false

open ExportAudit.Analysis ExportAudit.Usage

/-- What a validation did. -/
structure ValidateSummary where
  modules : List ModuleValidation
  listOnly : Bool

/-- The number of modules that did not pass. -/
def ValidateSummary.failedCount (summary : ValidateSummary) : Nat :=
  summary.modules.countP (·.isFailure)

/-- What a measurement of coverage did. -/
structure CoverageSummary where
  modules : List ModuleCoverage
  totals : CoverageTotals
  strategy : UsageStrategy
  exports : ExportsSource

/-- What an initialisation did. -/
structure InitSummary where
  path : Path
  /-- Why the file could not be created. -/
  error : Option String
  deriving DecidableEq, Repr

/-- What a command did. -/
inductive Summary where
  | validate (summary : ValidateSummary)
  | coverage (summary : CoverageSummary)
  | init (summary : InitSummary)

/-- The issues of all modules, in order. -/
def Summary.issues : Summary → List Issue
  | .validate summary => summary.modules.flatMap (·.issues)
  | .coverage summary => summary.modules.flatMap (·.issues)
  | .init _ => []

/-- How a run ends. -/
inductive ExitStatus where
  | success
  /-- Something did not pass. -/
  | failure
  /-- The run could not happen. -/
  | error
  deriving DecidableEq, Repr

/-- The exit code of a status. -/
def ExitStatus.code : ExitStatus → Nat
  | .success => 0
  | .failure => 1
  | .error => 2

/-- The outcome of a command. -/
structure Outcome where
  summary : Summary
  errorCount : Nat
  warningCount : Nat
  /-- Errors make the run fail. -/
  exitOnErrors : Bool

/-- The errors of a command itself. -/
def Summary.ownErrors : Summary → Nat
  | .init { error := some _, .. } => 1
  | _ => 0

/-- Counts the problems of a summary. -/
def finish (summary : Summary) (exitOnErrors : Bool) : Outcome :=
  { summary
    errorCount := summary.issues.countP (·.severity == .error) + summary.ownErrors
    warningCount := summary.issues.countP (·.severity == .warning)
    exitOnErrors }

/-- The exit status of an outcome. -/
def Outcome.exitStatus (outcome : Outcome) : ExitStatus :=
  if outcome.exitOnErrors && 0 < outcome.errorCount then .failure else .success

end ExportAudit.Report
