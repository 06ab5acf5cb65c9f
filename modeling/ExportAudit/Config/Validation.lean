import ExportAudit.Config.Basic
import ExportAudit.Glob
import ExportAudit.Text.Blank

/-!
# Sound configurations

A configuration that can be read may still make no sense.  Five things are checked,
in a fixed order, and the first that fails is reported: every ignore pattern can be
read, the namespace is not blank, the window is not empty, the pattern for test
files has a place for the module's name, and the compiler has time to run.

The test file of a module is the pattern with the module's name in every such place.
-/

namespace ExportAudit.Config

set_option autoImplicit false

open ExportAudit.Text

/-- What is wrong with a configuration. -/
inductive Unsound where
  | badPattern (pattern : String) (error : Glob.PatternError)
  | blankNamespace
  | emptyWindow
  | noPlaceholder (pattern : String)
  | noTime
  deriving DecidableEq, Repr

/-- The place of the module's name in a pattern for test files. -/
def placeholder : String := "\x7bmodule\x7d"

/-- The wording of a fault. -/
def Unsound.message : Unsound → String
  | .badPattern pattern error =>
    s!"Invalid glob pattern in 'ignores': \"{pattern}\": {error.message}"
  | .blankNamespace => "'namespace' must not be empty"
  | .emptyWindow => "'correlationWindow' must be at least 1"
  | .noPlaceholder pattern => s!"'testFilePattern' must contain {placeholder}: \"{pattern}\""
  | .noTime => "'compiler.timeoutSecs' must be at least 1"

/-- The first ignore pattern that cannot be read. -/
def firstBadPattern? : List String → Option Unsound
  | [] => none
  | pattern :: rest =>
    match Glob.read pattern with
    | .ok _ => firstBadPattern? rest
    | .error error => some (.badPattern pattern error)

/-- The first thing that is wrong with a configuration. -/
def unsound? (config : Config) : Option Unsound :=
  match firstBadPattern? config.ignores with
  | some fault => some fault
  | none =>
    if allBlank config.qualifier.toList then some .blankNamespace
    else if config.correlationWindow = 0 then some .emptyWindow
    else if !occursIn placeholder.toList config.testFilePattern.toList then
      some (.noPlaceholder config.testFilePattern)
    else if config.compiler.timeoutSecs = 0 then some .noTime
    else none

/-- A text with another in every place of a part, from left to right, after
skipping some characters. -/
def substitute (part replacement : List Char) : Nat → List Char → List Char
  | _, [] => []
  | skip + 1, _ :: rest => substitute part replacement skip rest
  | 0, c :: rest =>
    if (after? part (c :: rest)).isSome then
      replacement ++ substitute part replacement (part.length - 1) rest
    else c :: substitute part replacement 0 rest

/-- The name of a module's test file. -/
def testFileName (config : Config) (moduleName : String) : String :=
  String.ofList
    (substitute placeholder.toList moduleName.toList 0 config.testFilePattern.toList)

end ExportAudit.Config
