import ExportAudit.Path

/-!
# Why a dump could not be produced

Each way in which a dump source can fail is a case of its own, with what a reader of
the report needs to know.
-/

namespace ExportAudit.Source

set_option autoImplicit false

/-- Why a dump could not be produced. -/
inductive ToolFailure where
  | notFound (program : String)
  | spawn (program reason : String)
  | timeout (program : String) (secs : Nat)
  /-- An exit code that is not allowed, or a signal, with a line of what was printed. -/
  | exitStatus (program : String) (code : Option Int) (stderr : String)
  | emptyOutput (tool : String)
  | io (path : Path) (reason : String)
  | missingDump (path : Path)
  deriving DecidableEq, Repr

/-- The wording of a failure. -/
def ToolFailure.message : ToolFailure → String
  | .notFound program => s!"'{program}' not found"
  | .spawn program reason => s!"failed to run '{program}': {reason}"
  | .timeout program secs => s!"'{program}' timed out after {secs}s"
  | .exitStatus program code stderr =>
    let ended := match code with
      | some code => s!"'{program}' exited with code {code}"
      | none => s!"'{program}' was terminated by a signal"
    if stderr.isEmpty then ended else s!"{ended}: {stderr}"
  | .emptyOutput tool => s!"'{tool}' produced no dump output"
  | .io path reason => s!"failed to read {path.text}: {reason}"
  | .missingDump path => s!"dump file {path.text} not found"

end ExportAudit.Source
