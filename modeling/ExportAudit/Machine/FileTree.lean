import ExportAudit.Machine.Files
import ExportAudit.Text.Utf8

/-!
# A tree of files

A file tree is the finite part of a file system that a run can see: directories,
files with their bytes, and symbolic links, each under an address, the list of names
that leads to it from the root.  A path is resolved name by name from the root or
from the working directory; a link is replaced by its target where it is met, and
**only a directory can be passed through.**
-/

namespace ExportAudit

set_option autoImplicit false

open ExportAudit.Text

/-- The names that lead to an entry from the root. -/
abbrev Address := List String

/-- What stands at an address. -/
inductive Entry where
  | directory
  | file (content : List UInt8) (executable : Bool)
  | link (target : String)
  deriving DecidableEq, Repr

/-- A tree of files, with the directory that relative paths start from. -/
structure FileTree where
  entries : List (Address × Entry)
  workingDirectory : Address
  deriving DecidableEq, Repr

namespace FileTree

/-! ## Entries -/

/-- What stands at an address; the root is always a directory. -/
def lookup (tree : FileTree) (address : Address) : Option Entry :=
  if address = [] then some .directory
  else (tree.entries.find? (·.1 == address)).map (·.2)

/-- Puts an entry at an address, in the place of what stood there. -/
def put (tree : FileTree) (address : Address) (entry : Entry) : FileTree :=
  { tree with entries := (address, entry) :: tree.entries.filter (·.1 != address) }

/-- Removes an address and everything under it. -/
def removeTree (tree : FileTree) (address : Address) : FileTree :=
  { tree with entries := tree.entries.filter fun e => !address.isPrefixOf e.1 }

/-! ## Resolving paths -/

/-- The pieces of a path's text. -/
def piecesOf (text : String) : List String :=
  (Path.pieces text.toList).map String.ofList

/-- Follows pieces from a directory or file; the fuel bounds the number of steps. -/
def follow (tree : FileTree) : Nat → Address → List String → Except FileError Address
  | 0, _, _ => .error .tooManyLinks
  | _ + 1, current, [] => .ok current
  | fuel + 1, current, piece :: rest =>
    match tree.lookup current with
    | some .directory =>
      if piece = "" ∨ piece = "." then tree.follow fuel current rest
      else if piece = ".." then tree.follow fuel current.dropLast rest
      else
        let next := current ++ [piece]
        match tree.lookup next with
        | none => .error .notFound
        | some (.link target) =>
          let start := if (Path.mk target).isAbsolute then [] else current
          tree.follow fuel start (piecesOf target ++ rest)
        | some _ => tree.follow fuel next rest
    | some _ => .error .notDirectory
    | none => .error .notFound

/-- A bound on the steps of a resolution that meets no more links than allowed. -/
def stepBound (tree : FileTree) (pieces : List String) : Nat :=
  let linkPieces := tree.entries.foldl (fun most e =>
    match e.2 with
    | .link target => max most (piecesOf target).length
    | _ => most) 0
  pieces.length + 41 * (linkPieces + 1) + 1

/-- The address that a path leads to. -/
def resolve (tree : FileTree) (path : Path) : Except FileError Address :=
  if path.text.isEmpty then .error .notFound
  else
    let pieces := piecesOf path.text
    let start := if path.isAbsolute then [] else tree.workingDirectory
    tree.follow (tree.stepBound pieces) start pieces

/-- What a path leads to. -/
def entryAt? (tree : FileTree) (path : Path) : Except FileError (Address × Entry) := do
  let address ← tree.resolve path
  match tree.lookup address with
  | some entry => .ok (address, entry)
  | none => .error .notFound

/-! ## Reading -/

/-- The bytes of a file. -/
def readBytes (tree : FileTree) (path : Path) : Except FileError (List UInt8) := do
  match (← tree.entryAt? path).2 with
  | .file content _ => .ok content
  | .directory => .error .isDirectory
  | .link _ => .error .tooManyLinks

/-- The text of a file. -/
def readText (tree : FileTree) (path : Path) : Except FileError String := do
  match decode? (← tree.readBytes path) with
  | some text => .ok text
  | none => .error .notText

/-- The names under an address. -/
def childrenOf (tree : FileTree) (address : Address) : List (String × Entry) :=
  tree.entries.filterMap fun (place, entry) =>
    match place.getLast? with
    | some name => if place.dropLast = address then some (name, entry) else none
    | none => none

/-- The tree as an analysis sees it. -/
def files (tree : FileTree) : Files where
  readText := tree.readText
  present path := (tree.entryAt? path).isOk
  isFile path := match tree.entryAt? path with
    | .ok (_, .file _ _) => true
    | _ => false
  isDirectory path := match tree.entryAt? path with
    | .ok (_, .directory) => true
    | _ => false
  children path := match tree.entryAt? path with
    | .ok (address, .directory) => (tree.childrenOf address).map fun (name, entry) =>
      { name, isPlainFile := match entry with
          | .file _ _ => true
          | _ => false }
    | _ => []

/-! ## Changing -/

/-- The place of a path's last name in its directory, whether or not something stands
there. -/
def placeOf (tree : FileTree) (path : Path) : Except FileError Address := do
  match path.fileName?, path.parent? with
  | some name, some parent =>
    let above ← if parent.text.isEmpty then .ok tree.workingDirectory else tree.resolve parent
    match tree.lookup above with
    | some .directory => .ok (above ++ [name])
    | some _ => .error .notDirectory
    | none => .error .notFound
  | _, _ => .error .notFound

/-- The address at which a write to a path ends up: a link whose target does not exist
stands for the place of its target.  The fuel bounds the number of links. -/
def destination (tree : FileTree) : Nat → Path → Except FileError Address
  | 0, _ => .error .tooManyLinks
  | fuel + 1, path =>
    match tree.resolve path with
    | .ok address => .ok address
    | .error _ => do
      let place ← tree.placeOf path
      match tree.lookup place with
      | some (.link target) =>
        let above : Path := ⟨"/" ++ "/".intercalate place.dropLast⟩
        tree.destination fuel (above.join target)
      | _ => .ok place

/-- The greatest number of links that a write passes. -/
def maxLinks : Nat := 40

/-- Writes a file. -/
def write (tree : FileTree) (path : Path) (content : List UInt8) : Except FileError FileTree := do
  let address ← tree.destination maxLinks path
  match tree.lookup address with
  | some .directory => .error .isDirectory
  | some (.file _ executable) => .ok (tree.put address (.file content executable))
  | _ => .ok (tree.put address (.file content false))

/-- Makes the directory at a path, and those above it that are missing. -/
def makeDirectories (tree : FileTree) (path : Path) : FileTree :=
  let pieces := piecesOf path.text
  (List.range pieces.length).foldl (fun tree count =>
    let above : Path := ⟨"/".intercalate (pieces.take (count + 1))⟩
    if (tree.resolve above).isOk then tree
    else
      match tree.placeOf above with
      | .ok address => tree.put address .directory
      | .error _ => tree) tree

/-- Removes what stands at a path, a link itself and not what it leads to. -/
def remove (tree : FileTree) (path : Path) : Except FileError FileTree := do
  let address ← tree.placeOf path
  match tree.lookup address with
  | some _ => .ok (tree.removeTree address)
  | none => .error .notFound

end FileTree

end ExportAudit
