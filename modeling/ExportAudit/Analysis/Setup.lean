import ExportAudit.Config.Validation
import ExportAudit.Export.Scan
import ExportAudit.Source.DumpSource
import ExportAudit.Usage.Locator

/-!
# What an analysis works with

A setup holds the configuration, the directories that follow from it, the files, and
the source of dumps.  It pairs a module with its test, and it says what to scan for
and how to locate usages.  A relative directory lies under the root, unless the root
is the current directory; **then it is left as it is written.**
-/

namespace ExportAudit.Analysis

set_option autoImplicit false

open ExportAudit.Export ExportAudit.Source ExportAudit.Usage

/-- Everything that an analysis works with. -/
structure Setup where
  config : Config
  srcDir : Path
  testDir : Path
  files : Files
  dumps : DumpSource

/-- A module with the test that belongs to it. -/
structure ModuleInput where
  name : String
  modulePath : Path
  testPath : Path
  deriving DecidableEq, Repr

/-- The name of a module: its file's name without the extension.  The name of a file is a text
already, so nothing is lost on the way; two names of bytes that are not texts could come to
read alike, and they are outside of what a path is here. -/
def moduleName (path : Path) : String :=
  path.stem?.getD ""

/-- A directory of the configuration, seen from the root. -/
def underRoot (root : Path) (directory : String) : Path :=
  if root.same ⟨"."⟩ then ⟨directory⟩ else root.join directory

namespace Setup

/-- The setup that follows from a root and a configuration. -/
def ofParts (root : Path) (config : Config) (files : Files) (dumps : DumpSource) : Setup :=
  { config
    srcDir := underRoot root config.srcDir
    testDir := underRoot root config.testDir
    files
    dumps }

/-- What to scan for in the dump of a module. -/
def scanOptions (setup : Setup) (moduleName : String) : ScanOptions :=
  { moduleName
    namespaces :=
      { qualifier := setup.config.qualifier, nested := setup.config.nestedNamespaces }
    window := setup.config.correlationWindow.toNat }

/-- How to locate usages with a strategy. -/
def locator (setup : Setup) (strategy : UsageStrategy) : Locator :=
  { strategy
    qualifier := setup.config.qualifier
    contextTokens := setup.config.contextTokens.toNat }

/-- A module with its test under the configured name. -/
def pair (setup : Setup) (modulePath : Path) : ModuleInput :=
  let name := moduleName modulePath
  { name, modulePath, testPath := setup.testDir.join (setup.config.testFileName name) }

end Setup

end ExportAudit.Analysis
