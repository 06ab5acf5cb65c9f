import ExportAudit.Machine.Files
import ExportAudit.Machine.Launcher
import ExportAudit.Source.ToolFailure
import ExportAudit.Text.Pieces
import ExportAudit.Text.Search

/-!
# Where dumps come from

A dump source produces the dump of a file, says what it does to produce it, and can
be checked once before any file is looked at.  There are two.  The compiler is run
with its dump flags under a time limit, and its exit code must be among those
allowed.  A directory holds dumps made before, each under the name of its file.

**A dump that consists of blanks alone is a failure of its source**, never a dump.
-/

namespace ExportAudit.Source

set_option autoImplicit false

open ExportAudit.Text ExportAudit.Machine

/-- A source of dumps. -/
structure DumpSource where
  /-- What producing the dump of a file amounts to. -/
  describe : Path → String
  /-- The dump of a file. -/
  dump : Path → Except ToolFailure String
  /-- The program to be checked, if the source runs one. -/
  program? : Option String
  /-- Whether dumps can be produced at all. -/
  preflight : Except ToolFailure Unit

/-! ## A directory of dumps -/

/-- The extension of dumps made before. -/
def dumpExtension : String := "ast"

/-- The path of a file's dump in a directory. -/
def dumpPath (directory file : Path) : Path :=
  directory.join (file.fileName?.getD "" ++ "." ++ dumpExtension)

/-- A dump that has content. -/
def nonBlank (tool dump : String) : Except ToolFailure String :=
  if allBlank dump.toList then .error (.emptyOutput tool) else .ok dump

/-- The dump of a file in a directory. -/
def readDump (files : Files) (directory file : Path) : Except ToolFailure String :=
  let path := dumpPath directory file
  if !files.isFile path then .error (.missingDump path)
  else
    match files.readText path with
    | .error error => .error (.io path error.message)
    | .ok content => nonBlank path.text content

/-- Dumps made before, in a directory. -/
def ofDirectory (files : Files) (directory : Path) : DumpSource where
  describe file := s!"read {(dumpPath directory file).text}"
  dump := readDump files directory
  program? := none
  preflight := .ok ()

/-! ## The compiler -/

/-- How the compiler is started. -/
structure CompilerSettings where
  program : String
  args : List String
  timeoutMillis : Nat
  allowedExitCodes : List Int32
  deriving DecidableEq

/-- The flags that make the compiler print a dump. -/
def dumpFlags : List String := ["-Xclang", "-ast-dump", "-fsyntax-only"]

/-- The flag with which the compiler is checked. -/
def versionFlag : String := "--version"

namespace CompilerSettings

/-- The arguments for the dump of a file. -/
def arguments (settings : CompilerSettings) (file : Path) : List String :=
  settings.args ++ dumpFlags ++ [file.text]

/-- The line of what the compiler complained that is shown: the first that mentions an
error, else the first that is not blank. -/
def summary (errors : String) : String :=
  let trimmed := (lines errors.toList).map trim
  let chosen := trimmed.find? (occursIn "error".toList) <|> trimmed.find? (!·.isEmpty)
  String.ofList (chosen.getD [])

/-- The failure that a start ended with. -/
def launchFailure (settings : CompilerSettings) : LaunchError → ToolFailure
  | .notFound => .notFound settings.program
  | .refused reason => .spawn settings.program reason
  | .timedOut => .timeout settings.program (settings.timeoutMillis / 1000)

/-- Starts the compiler and waits for its end.  The point at which its time is over is one that
the clock can hold; with a longer time a run breaks off at this place, which no launcher tells. -/
def start (settings : CompilerSettings) (launch : Launcher) (args : List String) :
    Except ToolFailure Execution :=
  (launch settings.program args settings.timeoutMillis).mapError settings.launchFailure

/-- The failure that an execution ended with. -/
def exitFailure (settings : CompilerSettings) (execution : Execution) : ToolFailure :=
  .exitStatus settings.program execution.exitCode (summary execution.errors)

/-- The exit code is among those allowed. -/
def allows (settings : CompilerSettings) (execution : Execution) : Bool :=
  execution.exitCode.any fun code => settings.allowedExitCodes.any (·.toInt == code)

/-- The dump that the compiler prints for a file. -/
def dump (settings : CompilerSettings) (launch : Launcher) (file : Path) :
    Except ToolFailure String := do
  let execution ← settings.start launch (settings.arguments file)
  if settings.allows execution then nonBlank settings.program execution.output
  else .error (settings.exitFailure execution)

/-- The compiler must tell its version. -/
def preflight (settings : CompilerSettings) (launch : Launcher) : Except ToolFailure Unit := do
  let execution ← settings.start launch [versionFlag]
  if execution.exitCode = some 0 then .ok () else .error (settings.exitFailure execution)

/-- The command line for the dump of a file. -/
def describe (settings : CompilerSettings) (file : Path) : String :=
  " ".intercalate (settings.program :: settings.arguments file)

end CompilerSettings

/-- Dumps printed by the compiler. -/
def ofCompiler (launch : Launcher) (settings : CompilerSettings) : DumpSource where
  describe := settings.describe
  dump := settings.dump launch
  program? := some settings.program
  preflight := settings.preflight launch

end ExportAudit.Source
