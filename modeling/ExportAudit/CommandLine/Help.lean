/-!
# The help text

A command line without a command is answered with the list of commands.
-/

namespace ExportAudit.CommandLine

set_option autoImplicit false

/-- The name under which the program is called. -/
def programName : String := "modcov"

/-- The lines of the help text. -/
def helpLines : List String := [
  "Export coverage and cross-validation for C++20 module interface units",
  "",
  s!"Usage: {programName} [COMMAND]",
  "",
  "Commands:",
  "  validate  Cross-validate exports found in the declaration dump against the module source",
  "  coverage  Report which exports are used by the module's tests",
  "  init      Initialize a new .modcovrc.json configuration file",
  "  help      Print this message or the help of the given subcommand(s)",
  "",
  "Options:",
  "  -h, --help     Print help",
  "  -V, --version  Print version"]

/-- The help text. -/
def helpText : String :=
  String.join (helpLines.map (· ++ "\n"))

end ExportAudit.CommandLine
