import ExportAudit.Emulation.Shell
import ExportAudit.Machine.Launcher

/-!
# Programs on a tree of files

A whole run can be tried on a tree of files alone.  The compiler is then a script in the
tree, and something has to run it: a shell and the few utilities that such scripts call.
This folder has them.  **Nothing is proved of them and nothing that is proved rests on
them**, for an analysis takes its launcher as it comes, and theirs is only one.

A name with a slash is a path; any other name is looked up among the programs provided.
What stands at a path must be an executable file: a script that names the shell as its
interpreter, or one of the provided programs.
-/

namespace ExportAudit.Emulation

set_option autoImplicit false

open ExportAudit.Text ExportAudit.Machine

/-! ## The shell as a program -/

/-- The execution that a shell's final state amounts to. -/
def executionOf (state : ShellState) (limit : Nat) : Except LaunchError Execution :=
  if limit < state.millis then .error .timedOut
  else
    .ok
      { exitCode := match state.ending with
          | some .signal => none
          | some (.status code) => some code
          | none => some state.status
        output := decodeLossy state.output.bytes
        errors := decodeLossy state.errors.bytes }

/-- Runs the text of a script under a name. -/
def runScript (tree : FileTree) (name : String) (parameters : List String) (text : String)
    (limit : Nat) : Except LaunchError Execution :=
  match readScript text with
  | some command => executionOf (command.run (runText maxDepth) { tree, name, parameters }) limit
  | none => .ok { exitCode := some 2, output := "", errors := s!"{name}: 1: Syntax error\n" }

/-- The letters that the shell takes as options. -/
def shellOptions : List Char := "aefnuvxIimsVECpb".toList

/-- The first letter of an option that the shell does not take. -/
def illegalOption? (option : String) : Option Char :=
  (option.toList.drop 1).find? fun c => !shellOptions.contains c

/-- The shell on its arguments: a script in the text, a script in a file, or nothing. -/
def runShell (tree : FileTree) (args : List String) (limit : Nat) : Except LaunchError Execution :=
  let failed (message : String) : Except LaunchError Execution :=
    .ok { exitCode := some 2, output := "", errors := message }
  match args with
  | [] => .ok { exitCode := some 0, output := "", errors := "" }
  | "-c" :: [] => failed "sh: 0: -c requires an argument\n"
  | "-c" :: text :: rest => runScript tree (rest.headD "sh") (rest.drop 1) text limit
  | first :: rest =>
    if first.toList.head? = some '-' ∧ first ≠ "-" then
      match illegalOption? first with
      | some letter => failed s!"sh: 0: Illegal option -{letter}\n"
      | none => .ok { exitCode := some 0, output := "", errors := "" }
    else
      match tree.readText ⟨first⟩ with
      | .ok text => runScript tree first rest text limit
      | .error _ => failed s!"sh: 0: cannot open {first}: No such file\n"

/-! ## Provided programs -/

/-- The programs that are provided. -/
def providedPrograms : List String :=
  "sh" :: utilityNames

/-- The directories in which provided programs stand. -/
def programDirectories : List Address :=
  [["bin"], ["usr", "bin"]]

/-- Runs a provided program. -/
def runProvided (tree : FileTree) (name : String) (args : List String) (limit : Nat) :
    Except LaunchError Execution :=
  if name = "sh" then runShell tree args limit
  else
    match runUtility? tree name args [] with
    | some result =>
      if limit < result.millis then .error .timedOut
      else
        .ok
          { exitCode := some result.status
            output := decodeLossy result.output
            errors := decodeLossy result.errors }
    | none => .error .notFound

/-! ## Starting -/

/-- The interpreter that the first line of a script names. -/
def interpreter? (text : String) : Option String :=
  match text.toList with
  | '#' :: '!' :: rest =>
    let line := rest.takeWhile (· != '\n')
    let word := (line.dropWhile (· == ' ')).takeWhile fun c => c != ' ' && c != '\t'
    if word.isEmpty then none else some (String.ofList word)
  | _ => none

/-- The interpreters that are the shell. -/
def isShellPath (path : String) : Bool :=
  path == "/bin/sh" || path == "/usr/bin/sh" || path == "/bin/bash" || path == "/bin/dash"

/-- Starts the executable file at a path. -/
def startFile (tree : FileTree) (program : String) (content : Bytes) (args : List String)
    (limit : Nat) : Except LaunchError Execution :=
  let text := decodeLossy content
  match interpreter? text with
  | some path =>
    if isShellPath path then runScript tree program args text limit else .error .notFound
  | none => .error (.refused "Exec format error (os error 8)")

/-- Starts what stands at a path. -/
def startPath (tree : FileTree) (program : String) (args : List String) (limit : Nat) :
    Except LaunchError Execution :=
  match tree.entryAt? ⟨program⟩ with
  | .error .notFound => .error .notFound
  | .error error => .error (.refused error.message)
  | .ok (address, .file content executable) =>
    if !executable then .error (.refused FileError.permissionDenied.message)
    else if programDirectories.contains address.dropLast then
      runProvided tree (address.getLast?.getD "") args limit
    else startFile tree program content args limit
  | .ok _ => .error (.refused FileError.permissionDenied.message)

/-- Starts a program in a tree of files. -/
def launch (tree : FileTree) : Launcher := fun program args limit =>
  if program.contains '/' then startPath tree program args limit
  else if providedPrograms.contains program then runProvided tree program args limit
  else .error .notFound

/-! ## A machine -/

/-- The directory in which a run starts. -/
def projectDirectory : Address := ["project"]

/-- A machine with nothing but its own files: the provided programs and a file that
nobody may run. -/
def freshTree : FileTree :=
  let programs := programDirectories.flatMap fun directory =>
    providedPrograms.map fun name => (directory ++ [name], Entry.file [] true)
  let directories : List (Address × Entry) :=
    [["bin"], ["usr"], ["usr", "bin"], ["etc"], ["dev"], ["tmp"], projectDirectory].map
      fun address => (address, Entry.directory)
  { entries := directories ++ programs ++ [(["etc", "passwd"], Entry.file [] false)]
    workingDirectory := projectDirectory }

end ExportAudit.Emulation
