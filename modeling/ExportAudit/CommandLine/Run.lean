import ExportAudit.Analysis.Discovery
import ExportAudit.CommandLine.Command
import ExportAudit.CommandLine.Help
import ExportAudit.Config.Search
import ExportAudit.Machine.FileTree
import ExportAudit.Machine.Launcher
import ExportAudit.Report.Printed

/-!
# Running a command

A run loads the configuration, lets the command line override parts of it, picks the
source of dumps, and does what the command asks for.  It takes notes on the way, which
are printed when the command is verbose.  A run that cannot happen ends with the cause,
**and then prints nothing but the notes taken so far.**

The only thing that a run changes is the configuration file, which an initialisation
creates.
-/

namespace ExportAudit.CommandLine

set_option autoImplicit false

open ExportAudit.Analysis ExportAudit.Machine ExportAudit.Report ExportAudit.Source
open ExportAudit.Usage

/-- Why a run cannot happen. -/
inductive FatalError where
  | badConfiguration (error : Config.LoadError)
  | noDumpDirectory (directory : Path)
  | noModules (error : DiscoveryError)
  | noDumps (failure : ToolFailure)
  | notLocated (error : LocateError)
  | notWritten (error : FileError)
  deriving DecidableEq, Repr

/-- The wording of a cause. -/
def FatalError.message : FatalError → String
  | .badConfiguration error => error.message
  | .noDumpDirectory directory => s!"Dump directory not found: {directory.text}"
  | .noModules error => error.message
  | .noDumps failure => s!"Cannot produce declaration dumps: {failure.message}"
  | .notLocated error => error.message
  | .notWritten error => error.message

/-- Something worth telling about a run. -/
inductive RunNote where
  | configurationFrom (path : Path)
  | defaultConfiguration
  | discovery (note : DiscoveryNote)
  | checking (program : String)
  deriving DecidableEq, Repr

/-- The wording of a note. -/
def RunNote.message : RunNote → String
  | .configurationFrom path => s!"Note: Using configuration from {path.text}"
  | .defaultConfiguration =>
    s!"Note: No {Config.fileName} found, using default configuration"
  | .discovery note => note.message
  | .checking program => s!"Note: Checking {program} {versionFlag}"

/-- A part of a run: it takes notes, and it may find that the run cannot happen. -/
abbrev RunM := ExceptT FatalError (StateM (List RunNote))

/-- Takes notes. -/
def takeNotes (notes : List RunNote) : RunM Unit :=
  modify (· ++ notes)

/-- A result whose failure ends the run. -/
def orFatal {ε α : Type} (cause : ε → FatalError) : Except ε α → RunM α
  | .ok value => pure value
  | .error error => throw (cause error)

/-! ## Setting up -/

/-- The configuration with the parts that a command line overrides. -/
def CommonArguments.override (common : CommonArguments) (config : Config) : Config :=
  { config with
    srcDir := (common.srcDir.map (·.text)).getD config.srcDir
    testDir := (common.testDir.map (·.text)).getD config.testDir
    compiler.path := common.compiler.getD config.compiler.path }

/-- The number of milliseconds in a second. -/
def millisPerSecond : Nat := 1000

/-- How a configuration runs the compiler. -/
def compilerSettings (compiler : CompilerConfig) : CompilerSettings :=
  { program := compiler.path
    args := compiler.args
    timeoutMillis := compiler.timeoutSecs.toNat * millisPerSecond
    allowedExitCodes := compiler.allowedExitCodes }

/-- The source of dumps that a command line chooses. -/
def dumpSource (files : Files) (launch : Launcher) (common : CommonArguments)
    (config : Config) : RunM DumpSource :=
  match common.dumpDir with
  | none => pure (ofCompiler launch (compilerSettings config.compiler))
  | some directory =>
    if files.isDirectory directory then pure (ofDirectory files directory)
    else throw (.noDumpDirectory directory)

/-- The setup for a command. -/
def setUp (files : Files) (launch : Launcher) (common : CommonArguments) : RunM Setup := do
  let loaded ← orFatal .badConfiguration (Config.load files common.root)
  takeNotes [match loaded.path with
    | some path => .configurationFrom path
    | none => .defaultConfiguration]
  let config := common.override loaded.config
  let dumps ← dumpSource files launch common config
  return .ofParts common.root config files dumps

/-- The modules in the source directory, at least one. -/
def discover (setup : Setup) : RunM (List Path) := do
  let found ← orFatal .noModules
    (discoverIn setup.files setup.srcDir (.ofConfig setup.config))
  takeNotes (found.notes.map .discovery)
  if found.modules.isEmpty then
    throw (.noModules (.noModules setup.config.moduleExtension setup.srcDir))
  return found.modules

/-- Checks the source of dumps. -/
def checkDumps (setup : Setup) : RunM Unit := do
  takeNotes (setup.dumps.program?.toList.map .checking)
  orFatal .noDumps setup.dumps.preflight

/-! ## The commands -/

/-- Runs a validation. -/
def runValidate (files : Files) (launch : Launcher) (arguments : ValidateArguments) :
    RunM Outcome := do
  let setup ← setUp files launch arguments.common
  let modules ← if arguments.modules.isEmpty then discover setup else pure arguments.modules
  checkDumps setup
  return finish
    (.validate
      { modules := validateModules setup modules arguments.listOnly
        listOnly := arguments.listOnly })
    true

/-- The module of a pair with the test of that pair. -/
def ModulePair.input (pair : ModulePair) : ModuleInput :=
  { name := moduleName pair.modulePath
    modulePath := pair.modulePath
    testPath := pair.testPath }

/-- Runs a measurement of coverage. -/
def runCoverage (files : Files) (launch : Launcher) (arguments : CoverageArguments) :
    RunM Outcome := do
  let setup ← setUp files launch arguments.common
  let inputs ← match arguments.pair with
    | some pair => pure [pair.input]
    | none => do pure ((← discover setup).map setup.pair)
  let options : CoverageOptions :=
    { strategy := arguments.strategy
      exports := arguments.exports
      skipMissingTests := arguments.pair.isNone }
  if options.needsDumps then checkDumps setup
  let modules ← orFatal .notLocated (measureAll setup inputs options)
  return finish
    (.coverage
      { modules
        totals := .ofModules modules
        strategy := arguments.strategy
        exports := arguments.exports })
    false

/-- Runs an initialisation, which changes the tree. -/
def runInit (tree : FileTree) : RunM (Outcome × FileTree) := do
  let path : Path := ⟨Config.fileName⟩
  let outcome (error : Option String) : Outcome := finish (.init { path, error }) true
  if tree.files.present path then
    return (outcome (some s!"{Config.fileName} already exists"), tree)
  let written ← orFatal .notWritten (tree.write path (Text.encode Config.defaultText))
  return (outcome none, written)

/-! ## A run -/

/-- What a run leaves behind. -/
structure RunResult where
  /-- How the run ended, or why it could not happen. -/
  ending : Except FatalError ExitStatus
  printed : Printed
  tree : FileTree

/-- Runs a command in a tree of files. -/
def runCommand (tree : FileTree) (launch : Launcher) : Command → RunM (Outcome × FileTree)
  | .validate arguments => do return (← runValidate tree.files launch arguments, tree)
  | .coverage arguments => do return (← runCoverage tree.files launch arguments, tree)
  | .init => runInit tree

/-- Runs what a command line asks for.  The terminal gives texts a width, and it shows color or
not. -/
def run (tree : FileTree) (launch : Launcher) (width : Text.Width) (colorful : Bool) :
    Option Command → RunResult
  | none =>
    { ending := .ok .success
      printed := { output := helpText, errors := "" }
      tree }
  | some command =>
    let style := command.outputStyle colorful
    let (result, notes) := (runCommand tree launch command).run []
    let noted := if style.verbose then ofLines (notes.map (·.message)) else ""
    match result with
    | .error cause => { ending := .error cause, printed := { output := "", errors := noted }, tree }
    | .ok (outcome, tree) =>
      let printed := outcome.print width style
      { ending := .ok outcome.exitStatus
        printed := { printed with errors := noted ++ printed.errors }
        tree }

end ExportAudit.CommandLine
