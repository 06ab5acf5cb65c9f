import ExportAudit.CommandLine.Arguments
import ExportAudit.CommandLine.Run
import ExportAudit.Emulation.Programs
import ExportAudit.Emulation.Width

/-!
# The program

The program takes a picture of the files that a command can ask about: the
configuration files above the root, the directories of modules and dumps, the files
that the command line names, and the tests that belong to the modules.  It runs the
command on the picture, writes the configuration file if the run made one, and prints
the report.

Nothing is decided here, **and what cannot be read is left out of the picture.**  Two things
come from outside of a run, what a compiler does and how wide a text is.  Both are emulated:
the compiler is started on the picture, and the width is taken by the character.
-/

namespace ExportAudit.CommandLine

set_option autoImplicit false

open ExportAudit.Analysis ExportAudit.Emulation ExportAudit.Report

/-! ## The picture -/

/-- The address of a path in a directory. -/
def addressFrom (directory : Address) (path : Path) : Address :=
  path.components.foldl (fun address component =>
    match component with
    | .root => []
    | .current => address
    | .parent => address.dropLast
    | .name name => address ++ [name]) directory

/-- A picture in the making. -/
abbrev PictureM := StateT FileTree IO

/-- Puts an entry at an address, under directories. -/
def place (address : Address) (entry : Entry) : PictureM Unit :=
  modify fun tree =>
    let above := (List.range address.length).map address.take
    let under := above.foldl (fun tree address =>
      if (tree.lookup address).isSome then tree else tree.put address .directory) tree
    under.put address entry

/-- Does something, or leaves it out if it fails. -/
def leniently (action : PictureM Unit) : PictureM Unit := fun tree =>
  try action tree catch _ => pure ((), tree)

/-- Puts a file or an empty directory into the picture. -/
def takeOne (address : Address) (text : String) : PictureM Unit := do
  let real ← IO.FS.realPath text
  if ← real.isDir then place address .directory
  else place address (.file (← IO.FS.readBinFile real).toList true)

/-- Takes a file, or a directory with what is directly in it, into the picture. -/
def takePath (address : Address) (text : String) : PictureM Unit := leniently do
  takeOne address text
  let real ← IO.FS.realPath text
  if ← real.isDir then
    for entry in (← real.readDir) do
      let below := address ++ [entry.fileName]
      leniently do
        match (← entry.path.symlinkMetadata).type with
        | .symlink =>
          let target := (← IO.FS.realPath entry.path).toString
          place below (.link target)
          takeOne (addressFrom [] ⟨target⟩) target
        | _ => takeOne below entry.path.toString

/-- The files that a command line names. -/
def Command.files : Command → List Path
  | .validate arguments => arguments.modules
  | .coverage arguments =>
    arguments.pair.toList.flatMap fun pair => [pair.modulePath, pair.testPath]
  | .init => []

/-- Takes what an analysis can ask about into the picture. -/
def takeAnalysis (takeAll : List Path → PictureM Unit) (common : CommonArguments) :
    PictureM Unit := do
  let root := common.root
  takeAll ((Config.upward root.text.length root).flatMap fun path =>
    [path.join Config.fileName, path.join Config.repositoryMark])
  let files := (← get).files
  let loaded := (Config.load files root).toOption.map (·.config)
  let config := common.override (loaded.getD {})
  let setup := Setup.ofParts root config files (Source.ofDirectory files ⟨""⟩)
  takeAll ([setup.srcDir, ⟨config.compiler.path⟩] ++ common.dumpDir.toList)
  let modules := ((← get).files.children setup.srcDir).map fun child =>
    setup.srcDir.join child.name
  takeAll (modules.map fun path => (setup.pair path).testPath)

/-- The picture for a command. -/
def picture (command : Option Command) : IO FileTree := do
  let directory ← IO.currentDir
  let working := addressFrom [] ⟨directory.toString⟩
  let takeAll (paths : List Path) : PictureM Unit :=
    paths.forM fun path => takePath (addressFrom working path) path.text
  let action : PictureM Unit := do
    place working .directory
    takeAll [⟨Config.fileName⟩]
    takeAll ((command.map (·.files)).getD [])
    match command.bind (·.common?) with
    | some common => takeAnalysis takeAll common
    | none => pure ()
  let empty := freshTree.removeTree projectDirectory
  return (← action.run { empty with workingDirectory := working }).2

/-! ## Running -/

/-- The version of the program. -/
def version : String := "0.1.0"

/-- The variable of the environment that names a compiler. -/
def compilerVariable : String := "MODCOV_COMPILER"

/-- Answers a command line that is refused. -/
def refuse (error : UsageError) : IO UInt32 := do
  match error with
  | .displayHelp =>
    IO.print helpText
    return 0
  | .displayVersion =>
    IO.println s!"{programName} {version}"
    return 0
  | _ =>
    IO.eprintln s!"error: {error.label}"
    return UInt32.ofNat ExitStatus.error.code

/-- Runs a command on the files of the working directory. -/
def perform (command : Option Command) : IO UInt32 := do
  let before ← picture command
  let result := run before (launch before) widthByCharacter (← (← IO.getStdout).isTty)
    command
  IO.eprint result.printed.errors
  IO.print result.printed.output
  let path : Path := ⟨Config.fileName⟩
  match before.readBytes path, result.tree.readBytes path with
  | .error _, .ok content => IO.FS.writeBinFile Config.fileName ⟨content.toArray⟩
  | _, _ => pure ()
  match result.ending with
  | .ok status => return UInt32.ofNat status.code
  | .error cause =>
    IO.eprintln s!"Error: {cause.message}"
    return UInt32.ofNat ExitStatus.error.code

end ExportAudit.CommandLine

open ExportAudit.CommandLine in
/-- Reads the command line and does what it asks for. -/
def main (arguments : List String) : IO UInt32 := do
  match readCommandLine arguments with
  | .error error => refuse error
  | .ok command =>
    let compiler ← IO.getEnv compilerVariable
    perform (command.map (·.withCompiler compiler))
