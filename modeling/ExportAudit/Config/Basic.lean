import ExportAudit.Json.Value
import ExportAudit.Path

/-!
# The configuration

A configuration says where modules and tests are, which names count as exports, and
how the compiler is run.  Every member has a default, and the default configuration
has them all.  Numbers are machine words, as they are in the file.

The printed form has the members in a fixed order, under their names in the file.
-/

namespace ExportAudit

set_option autoImplicit false

/-- How the compiler is run. -/
structure CompilerConfig where
  path : String := "clang++"
  args : List String := ["-std=c++20"]
  timeoutSecs : UInt64 := 30
  allowedExitCodes : List Int32 := [0]
  deriving DecidableEq

/-- A configuration. -/
structure Config where
  srcDir : String := "src"
  testDir : String := "test"
  moduleExtension : String := "cppm"
  testFilePattern : String := "test_\x7bmodule\x7d.cpp"
  excludeModules : List String := ["std"]
  ignores : List String := []
  qualifier : String := "std"
  nestedNamespaces : List String := ["filesystem", "ranges"]
  correlationWindow : UInt64 := 10
  contextTokens : UInt64 := 10
  compiler : CompilerConfig := {}
  deriving DecidableEq

namespace Config

/-- The name of the configuration file. -/
def fileName : String := ".modcovrc.json"

/-! ## The printed form -/

/-- The printed form of the compiler's part. -/
def compilerJson (compiler : CompilerConfig) : Json :=
  .object [
    ("path", .string compiler.path),
    ("args", .ofStrings compiler.args),
    ("timeoutSecs", .ofNat compiler.timeoutSecs.toNat),
    ("allowedExitCodes", .array (compiler.allowedExitCodes.map fun code => .ofInt code.toInt))]

/-- The printed form of a configuration. -/
def toJson (config : Config) : Json :=
  .object [
    ("srcDir", .string config.srcDir),
    ("testDir", .string config.testDir),
    ("moduleExtension", .string config.moduleExtension),
    ("testFilePattern", .string config.testFilePattern),
    ("excludeModules", .ofStrings config.excludeModules),
    ("ignores", .ofStrings config.ignores),
    ("namespace", .string config.qualifier),
    ("nestedNamespaces", .ofStrings config.nestedNamespaces),
    ("correlationWindow", .ofNat config.correlationWindow.toNat),
    ("contextTokens", .ofNat config.contextTokens.toNat),
    ("compiler", compilerJson config.compiler)]

/-- The text of a configuration file. -/
def render (config : Config) : String :=
  config.toJson.pretty

/-- The text of the default configuration. -/
def defaultText : String :=
  render {}

end Config

end ExportAudit
