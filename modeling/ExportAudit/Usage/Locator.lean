import ExportAudit.Path
import ExportAudit.Usage.Qualified
import ExportAudit.Usage.Walk

/-!
# Locating usages

Two strategies find the usages of a set of symbols in a test.  Counting full names
needs the test's source alone.  Walking the tree needs its dump as well, and
records every site that lies in the test file itself.

Every symbol asked for gets an entry, used or not.  The walk goes through the sites once and
pushes each into the entry of its name, so **an entry depends on its own symbol alone.**
-/

namespace ExportAudit.Usage

set_option autoImplicit false

/-- How usages are located. -/
inductive UsageStrategy where
  | fast
  | tree
  deriving DecidableEq, Repr

/-- The name of a strategy. -/
def UsageStrategy.label : UsageStrategy → String
  | .fast => "fast"
  | .tree => "tree"

/-- The test in which usages are located. -/
structure TestInput where
  path : Path
  source : String
  dump : Option String
  deriving DecidableEq, Repr

/-- Why usages could not be located. -/
inductive LocateError where
  /-- The tree strategy has no dump of the test. -/
  | noDump (path : Path)
  deriving DecidableEq, Repr

/-- The wording of the failure. -/
def LocateError.message : LocateError → String
  | .noDump path => s!"No declaration dump available for {path.text}"

/-- A printed file name stands for a path: both name the same place, or both have
the same file name. -/
def sameFile (printed : String) (path : Path) : Bool :=
  let file : Path := ⟨printed⟩
  file.same path || (file.fileName?.isSome && file.fileName? == path.fileName?)

namespace Site

/-- The site lies in a file. -/
def isIn (site : Site) (path : Path) : Bool :=
  (site.place.bind (·.file)).any (sameFile · path)

/-- The line of a site. -/
def line (site : Site) : Nat :=
  ((site.place.bind (·.line))).getD 0

/-- The record of a site. -/
def toRecord (site : Site) (source : String) (contextTokens : Nat) : UsageRecord :=
  { symbol := site.name
    kind := site.kind
    line := site.line
    context := lineContext source site.line contextTokens }

end Site

/-- The usages with one more site.  It is recorded if it lies in the test and if its name is
looked for. -/
def recordSite (input : TestInput) (contextTokens : Nat) (usages : UsageMap) (site : Site) :
    UsageMap :=
  if site.isIn input.path then
    usages.change site.name (·.push (site.toRecord input.source contextTokens))
  else usages

/-- The usages that walking the tree finds. -/
def locateTree (contextTokens : Nat) (symbols : NameSet) (input : TestInput) :
    Except LocateError UsageMap :=
  match input.dump with
  | none => .error (.noDump input.path)
  | some dump => .ok ((sitesOf dump).foldl (recordSite input contextTokens) (.ofNames symbols))

/-- A strategy with its parameters. -/
structure Locator where
  strategy : UsageStrategy
  /-- The namespace that qualifies full names. -/
  qualifier : String
  /-- How many tokens of a line a record keeps. -/
  contextTokens : Nat
  deriving DecidableEq, Repr

namespace Locator

/-- The strategy reads the test's dump. -/
def needsDump (locator : Locator) : Bool :=
  locator.strategy == .tree

/-- The usages of a set of symbols in a test. -/
def locate (locator : Locator) (symbols : NameSet) (input : TestInput) :
    Except LocateError UsageMap :=
  match locator.strategy with
  | .fast => .ok (locateFast locator.qualifier symbols input.source)
  | .tree => locateTree locator.contextTokens symbols input

end Locator

end ExportAudit.Usage
