import ExportAudit.Glob
import ExportAudit.Analysis.Setup

/-!
# Discovering modules

The modules are the plain files directly in the source directory that have the
module extension, whose name is not excluded, and which no ignore pattern fits.
Patterns are matched against the file's name.  They are listed in the order of their
names, and what was ignored on the way is noted.

A pattern that cannot be read is noted as well and otherwise passed over.
-/

namespace ExportAudit.Analysis

set_option autoImplicit false

/-- Which files of a directory are modules. -/
structure ModuleFilter where
  extension : String
  /-- Names of modules that are left out. -/
  excluded : List String
  /-- Patterns of files that are left out. -/
  ignores : List String
  deriving DecidableEq, Repr

/-- Something worth telling about a discovery. -/
inductive DiscoveryNote where
  | badPattern (pattern : String) (error : Glob.PatternError)
  | ignored (path : Path)
  deriving DecidableEq, Repr

/-- The wording of a note. -/
def DiscoveryNote.message : DiscoveryNote → String
  | .badPattern pattern error => s!"warning: Invalid ignore pattern '{pattern}': {error.message}"
  | .ignored path => s!"Note: Ignoring {path.text}"

/-- What a discovery found. -/
structure Discovery where
  modules : List Path
  notes : List DiscoveryNote
  deriving DecidableEq, Repr

/-- Why modules could not be discovered. -/
inductive DiscoveryError where
  | noDirectory (directory : Path)
  | noModules (extension : String) (directory : Path)
  deriving DecidableEq, Repr

/-- The wording of a failure. -/
def DiscoveryError.message : DiscoveryError → String
  | .noDirectory directory => s!"Source directory not found: {directory.text}"
  | .noModules extension directory =>
    s!"No module files (*.{extension}) found in {directory.text}"

namespace ModuleFilter

/-- A file is a candidate: a plain file with the extension and a name not excluded. -/
def isCandidate (filter : ModuleFilter) (child : Child) : Bool :=
  let (stem, extension) := Path.splitName child.name
  child.isPlainFile && extension == some filter.extension && !filter.excluded.contains stem

/-- The patterns that can be read. -/
def patterns (filter : ModuleFilter) : List Glob.Pattern :=
  filter.ignores.filterMap fun pattern => (Glob.read pattern).toOption

/-- The notes on patterns that cannot be read. -/
def patternNotes (filter : ModuleFilter) : List DiscoveryNote :=
  filter.ignores.filterMap fun pattern =>
    match Glob.read pattern with
    | .ok _ => none
    | .error error => some (.badPattern pattern error)

/-- Some pattern fits a name. -/
def isIgnored (filter : ModuleFilter) (name : String) : Bool :=
  filter.patterns.any fun pattern => Glob.fits pattern name.toList

end ModuleFilter

/-- The modules of a directory. -/
def discoverIn (files : Files) (directory : Path) (filter : ModuleFilter) :
    Except DiscoveryError Discovery :=
  if !files.isDirectory directory then .error (.noDirectory directory)
  else
    let candidates := ((files.children directory).filter filter.isCandidate).map (·.name)
    let ordered := candidates.mergeSort fun a b => decide (a ≤ b)
    let (ignored, kept) := ordered.partition filter.isIgnored
    .ok
      { modules := kept.map directory.join
        notes := filter.patternNotes ++ ignored.map fun name => .ignored (directory.join name) }

/-- The filter of a configuration. -/
def ModuleFilter.ofConfig (config : Config) : ModuleFilter :=
  { extension := config.moduleExtension
    excluded := config.excludeModules
    ignores := config.ignores }

end ExportAudit.Analysis
