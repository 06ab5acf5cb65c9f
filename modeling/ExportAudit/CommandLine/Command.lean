import ExportAudit.Analysis.Coverage
import ExportAudit.Report.Style

/-!
# What a command line asks for

There are three commands: to validate modules, to measure coverage, and to create a
configuration file.  The first two share the options that say where things are and how
the report looks.  A command line without a command asks for help.

A command line that cannot be read is refused, for one reason.
-/

namespace ExportAudit.CommandLine

set_option autoImplicit false

open ExportAudit.Analysis ExportAudit.Report ExportAudit.Usage

/-- The options that the analysing commands share. -/
structure CommonArguments where
  root : Path := ⟨"."⟩
  /-- The directory of modules, in the place of the configured one. -/
  srcDir : Option Path := none
  /-- The directory of tests, in the place of the configured one. -/
  testDir : Option Path := none
  /-- A directory of dumps made before, in the place of the compiler. -/
  dumpDir : Option Path := none
  /-- The compiler, in the place of the configured one. -/
  compiler : Option String := none
  noColor : Bool := false
  format : OutputFormat := .text
  verbose : Bool := false
  deriving DecidableEq, Repr

/-- What a validation is asked for. -/
structure ValidateArguments where
  /-- The modules to be validated; none stands for all that are discovered. -/
  modules : List Path
  listOnly : Bool
  common : CommonArguments
  deriving DecidableEq, Repr

/-- A module with its test, as written. -/
structure ModulePair where
  modulePath : Path
  testPath : Path
  deriving DecidableEq, Repr

/-- What a measurement of coverage is asked for. -/
structure CoverageArguments where
  /-- The pair to be measured; none stands for all that are discovered. -/
  pair : Option ModulePair
  strategy : UsageStrategy
  exports : ExportsSource
  common : CommonArguments
  deriving DecidableEq, Repr

/-- A command. -/
inductive Command where
  | validate (arguments : ValidateArguments)
  | coverage (arguments : CoverageArguments)
  | init
  deriving DecidableEq, Repr

/-- Why a command line is refused. -/
inductive UsageError where
  | invalidSubcommand
  | unknownArgument
  /-- An option with a value that it does not take, or with none. -/
  | invalidValue
  /-- An option or a flag given twice. -/
  | argumentConflict
  | missingRequiredArgument
  /-- A flag with a value. -/
  | tooManyValues
  /-- Not a mistake: help is asked for. -/
  | displayHelp
  /-- Not a mistake: the version is asked for. -/
  | displayVersion
  deriving DecidableEq, Repr

/-- The name of a reason. -/
def UsageError.label : UsageError → String
  | .invalidSubcommand => "InvalidSubcommand"
  | .unknownArgument => "UnknownArgument"
  | .invalidValue => "InvalidValue"
  | .argumentConflict => "ArgumentConflict"
  | .missingRequiredArgument => "MissingRequiredArgument"
  | .tooManyValues => "TooManyValues"
  | .displayHelp => "DisplayHelp"
  | .displayVersion => "DisplayVersion"

namespace Command

/-- The shared options of a command, if it has them. -/
def common? : Command → Option CommonArguments
  | .validate arguments => some arguments.common
  | .coverage arguments => some arguments.common
  | .init => none

/-- A command with a compiler for the case that it names none. -/
def withCompiler (command : Command) (compiler : Option String) : Command :=
  match command with
  | .validate arguments =>
    .validate { arguments with
      common.compiler := arguments.common.compiler <|> compiler }
  | .coverage arguments =>
    .coverage { arguments with
      common.compiler := arguments.common.compiler <|> compiler }
  | .init => .init

/-- The style of a command's report, on a channel that can show color or not. -/
def outputStyle (command : Command) (colorful : Bool) : OutputStyle :=
  match command.common? with
  | some common =>
    { color := !common.noColor && colorful
      format := common.format
      verbose := common.verbose }
  | none => { color := colorful }

end Command

end ExportAudit.CommandLine
