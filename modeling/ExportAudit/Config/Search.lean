import ExportAudit.Config.Reader
import ExportAudit.Config.Validation
import ExportAudit.Machine.Files

/-!
# Finding the configuration file

The configuration is looked for in a directory and then upward, component by
component of the directory's own text.  The search ends where the file is found, at a
directory that holds a repository, or when no component is left.  A directory that
holds both the file and a repository has the file.

Without a file the defaults hold.  A file that is found must be readable, well formed
and sound, **and whatever fails first is fatal.**
-/

namespace ExportAudit.Config

set_option autoImplicit false

/-- What marks a repository. -/
def repositoryMark : String := ".git"

/-- What a search needs to know: whether something stands at a path. -/
abbrev Presence := Path → Bool

/-- The paths from a directory upward, the directory first; the fuel bounds their
number. -/
def upward : Nat → Path → List Path
  | 0, directory => [directory]
  | fuel + 1, directory =>
    match directory.parent? with
    | some above => directory :: upward fuel above
    | none => [directory]

/-- Looks for the file in some directories, in order. -/
def findIn (present : Presence) : List Path → Option Path
  | [] => none
  | directory :: above =>
    if present (directory.join fileName) then some (directory.join fileName)
    else if present (directory.join repositoryMark) then none
    else findIn present above

/-- Looks for the configuration file from a directory upward. -/
def find? (present : Presence) (start : Path) : Option Path :=
  findIn present (upward start.text.length start)

/-! ## Loading -/

/-- Why a configuration could not be loaded. -/
inductive LoadError where
  | unreadable (path : Path) (error : FileError)
  | unparsable (path : Path) (fault : Json.Fault)
  | unsound (fault : Unsound)
  deriving DecidableEq, Repr

/-- A character of a quoted path. -/
def quotedChar (c : Char) : List Char :=
  if c = '"' then ['\\', '"']
  else if c = '\\' then ['\\', '\\']
  else if c = '\n' then ['\\', 'n']
  else if c = '\r' then ['\\', 'r']
  else if c = '\t' then ['\\', 't']
  else if c.toNat = 0 then ['\\', '0']
  else if c.toNat < 32 ∨ c.toNat = 127 then
    ['\\', 'u', '\x7b'] ++ Nat.toDigits 16 c.toNat ++ ['\x7d']
  else [c]

/-- A path in quotes. -/
def quotedPath (path : Path) : String :=
  String.ofList ('"' :: (path.text.toList.flatMap quotedChar ++ ['"']))

/-- The wording of a failure. -/
def LoadError.message : LoadError → String
  | .unreadable path error => s!"Failed to read config file: {quotedPath path}: {error.message}"
  | .unparsable path fault => s!"Failed to parse config file: {quotedPath path}: <json {fault.label}>"
  | .unsound fault => fault.message

/-- A configuration and the file that it came from. -/
structure Loaded where
  config : Config
  path : Option Path

/-- Loads the configuration that holds for a directory. -/
def load (files : Files) (start : Path) : Except LoadError Loaded :=
  match find? files.present start with
  | none => .ok { config := {}, path := none }
  | some path =>
    match files.readText path with
    | .error error => .error (.unreadable path error)
    | .ok text =>
      match read text with
      | .error fault => .error (.unparsable path fault)
      | .ok config =>
        match unsound? config with
        | some fault => .error (.unsound fault)
        | none => .ok { config, path := some path }

end ExportAudit.Config
