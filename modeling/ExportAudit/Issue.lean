import ExportAudit.Json.Value
import ExportAudit.Source.ToolFailure

/-!
# Issues

Whatever goes wrong with one module becomes an issue of that module.  An issue has a
rule, and the rule decides its severity; it is about a path, and it has a message,
perhaps some details, and perhaps a hint.

Issues are ordered by path, then by rule, then by message.  **Details play no part in
the order.**
-/

namespace ExportAudit

set_option autoImplicit false

open ExportAudit.Source

/-- How bad an issue is. -/
inductive Severity where
  | error
  | warning
  deriving DecidableEq, Repr

/-- The name of a severity. -/
def Severity.label : Severity → String
  | .error => "error"
  | .warning => "warning"

/-- The kinds of issue, in their order. -/
inductive Rule where
  | fileNotFound
  | toolFailure
  | inconclusiveDump
  | mismatch
  | emptyExtraction
  | correlationGap
  | noTestFile
  deriving DecidableEq, Repr

namespace Rule

/-- The name of a rule. -/
def label : Rule → String
  | .fileNotFound => "file-not-found"
  | .toolFailure => "tool-failure"
  | .inconclusiveDump => "inconclusive-dump"
  | .mismatch => "mismatch"
  | .emptyExtraction => "empty-extraction"
  | .correlationGap => "correlation-gap"
  | .noTestFile => "no-test-file"

/-- The place of a rule among the rules. -/
def rank : Rule → Nat
  | .fileNotFound => 0
  | .toolFailure => 1
  | .inconclusiveDump => 2
  | .mismatch => 3
  | .emptyExtraction => 4
  | .correlationGap => 5
  | .noTestFile => 6

end Rule

/-- Where exports were looked for. -/
inductive Extractor where
  | dump
  | heuristic
  deriving DecidableEq, Repr

/-- The name of the place. -/
def Extractor.label : Extractor → String
  | .dump => "declaration dump"
  | .heuristic => "module source"

/-- What an issue says, apart from its path. -/
inductive Finding where
  /-- A file could not be read. -/
  | fileNotFound (reason : String)
  /-- The dump could not be produced. -/
  | toolFailure (failure : ToolFailure)
  /-- The dump has no nodes. -/
  | inconclusiveDump (lineCount : Nat) (firstLine : Option String)
  /-- The two sets of exports differ. -/
  | mismatch (onlyDump onlyHeuristic : List String)
  /-- No exports were found at all. -/
  | emptyExtraction (extractor : Extractor)
  /-- The line of an export was not recovered. -/
  | correlationGap (symbol : String)
  /-- A module has no test file. -/
  | noTestFile (expected : String)
  deriving DecidableEq, Repr

/-- An issue. -/
structure Issue where
  /-- The file that the issue is about. -/
  path : String
  finding : Finding
  deriving DecidableEq, Repr

namespace Issue

/-! ## What an issue says -/

/-- The rule of an issue. -/
def rule (issue : Issue) : Rule :=
  match issue.finding with
  | .fileNotFound _ => .fileNotFound
  | .toolFailure _ => .toolFailure
  | .inconclusiveDump _ _ => .inconclusiveDump
  | .mismatch _ _ => .mismatch
  | .emptyExtraction _ => .emptyExtraction
  | .correlationGap _ => .correlationGap
  | .noTestFile _ => .noTestFile

/-- The severity of an issue. -/
def severity (issue : Issue) : Severity :=
  match issue.rule with
  | .fileNotFound | .toolFailure | .inconclusiveDump | .mismatch => .error
  | .emptyExtraction | .correlationGap | .noTestFile => .warning

/-- The message of an issue. -/
def message (issue : Issue) : String :=
  match issue.finding with
  | .fileNotFound reason => s!"cannot read file: {reason}"
  | .toolFailure failure => s!"no declaration dump: {failure.message}"
  | .inconclusiveDump lineCount _ => s!"dump has no declaration nodes ({lineCount} lines)"
  | .mismatch _ _ => "export sets differ"
  | .emptyExtraction extractor => s!"no exports found in {extractor.label}"
  | .correlationGap symbol =>
    s!"no import line found for '{symbol}' within the correlation window"
  | .noTestFile expected => s!"no test file, expected {expected}"

/-- A line that lists some names, if there are any. -/
def listing (label : String) (names : List String) : List String :=
  if names.isEmpty then [] else [label ++ ", ".intercalate names]

/-- The details of an issue. -/
def details (issue : Issue) : List String :=
  match issue.finding with
  | .inconclusiveDump _ firstLine => firstLine.toList.map fun line => s!"dump starts with: {line}"
  | .mismatch onlyDump onlyHeuristic =>
    listing "only in dump: " onlyDump ++ listing "only in heuristic: " onlyHeuristic
  | _ => []

/-- What can be done about an issue. -/
def hint? (issue : Issue) : Option String :=
  match issue.finding with
  | .toolFailure (.notFound _) => some "set compiler.path or pass --compiler"
  | .toolFailure (.missingDump _) => some "generate the dump or drop --dump-dir"
  | .inconclusiveDump _ _ => some "the compiler must print -ast-dump output on stdout"
  | .correlationGap _ => some "raise correlationWindow in .modcovrc.json"
  | _ => none

/-! ## Order -/

/-- The first of two issues does not come after the second. -/
def precedes (a b : Issue) : Bool :=
  if a.path ≠ b.path then decide (a.path < b.path)
  else if a.rule ≠ b.rule then decide (a.rule.rank < b.rule.rank)
  else decide (a.message ≤ b.message)

/-- Issues in their order; those that the order does not tell apart keep theirs. -/
def sorted (issues : List Issue) : List Issue :=
  issues.mergeSort precedes

/-- The printed form of an issue. -/
def toJson (issue : Issue) : Json :=
  .object ([
    ("severity", .string issue.severity.label),
    ("rule", .string issue.rule.label),
    ("path", .string issue.path),
    ("message", .string issue.message)] ++
    if issue.details.isEmpty then [] else [("details", .ofStrings issue.details)])

end Issue

end ExportAudit
