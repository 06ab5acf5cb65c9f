/-!
# Paths

A path is a text of pieces separated by slashes.  Its components are the pieces
that matter: empty pieces and single dots are dropped, except a single dot in
front of a relative path, which is a component of its own.  **Two paths name the
same place exactly when their components agree.**

The name of a path is its last component if that is a proper name.  Joining puts
a path under another unless it is absolute, and nothing is normalised by it.

Paths are Unicode texts.  A machine can have files whose names are bytes that are not the
encoding of any text; such names do not occur here, and what becomes of them when they are
shown or compared as text is not told.
-/

namespace ExportAudit

set_option autoImplicit false

/-- A path, as written.  It is a Unicode text, as all its names are. -/
structure Path where
  text : String
  deriving DecidableEq, Repr

/-- A component of a path. -/
inductive Component where
  | root
  | current
  | parent
  | name (name : String)
  deriving DecidableEq, Repr

namespace Path

/-! ## Components -/

/-- The pieces of a text between slashes. -/
def pieces : List Char → List (List Char)
  | [] => [[]]
  | c :: rest =>
    if c = '/' then [] :: pieces rest
    else match pieces rest with
      | [] => [[c]]
      | piece :: others => (c :: piece) :: others

/-- The component that a later piece stands for. -/
def component? (piece : List Char) : Option Component :=
  if piece = [] ∨ piece = ['.'] then none
  else if piece = ['.', '.'] then some .parent
  else some (.name (String.ofList piece))

/-- The component that the first piece stands for. -/
def firstComponent? (piece : List Char) : Option Component :=
  if piece = ['.'] then some .current else component? piece

/-- The path starts at the root. -/
def isAbsolute (path : Path) : Bool :=
  path.text.toList.head? == some '/'

/-- The components of a path. -/
def components (path : Path) : List Component :=
  let inner := match pieces path.text.toList with
    | [] => []
    | first :: rest => (firstComponent? first).toList ++ rest.filterMap component?
  if path.isAbsolute then .root :: inner else inner

/-- Two paths with the same components. -/
def same (left right : Path) : Bool :=
  left.components == right.components

/-! ## Names -/

/-- The last component, if it is a name. -/
def fileName? (path : Path) : Option String :=
  match path.components.getLast? with
  | some (.name name) => some name
  | _ => none

/-- A file name cut at its last dot, unless that dot stands first. -/
def splitName (name : String) : String × Option String :=
  let reversed := name.toList.reverse
  let stem := ((reversed.dropWhile (· != '.')).drop 1).reverse
  if stem.isEmpty then (name, none)
  else (String.ofList stem, some (String.ofList (reversed.takeWhile (· != '.')).reverse))

/-- The file name without its extension. -/
def stem? (path : Path) : Option String :=
  path.fileName?.map fun name => (splitName name).1

/-! ## Moving -/

/-- A path under another; an absolute path stands alone. -/
def join (path : Path) (below : String) : Path :=
  if (Path.mk below).isAbsolute then ⟨below⟩
  else if path.text.isEmpty ∨ path.text.toList.getLast? = some '/' then ⟨path.text ++ below⟩
  else ⟨path.text ++ "/" ++ below⟩

/-- The path without its last component, written as before; none for the root and
the empty path. -/
def parent? (path : Path) : Option Path :=
  let marked := match pieces path.text.toList with
    | [] => []
    | first :: rest =>
      (first, (firstComponent? first).isSome) :: rest.map fun p => (p, (component? p).isSome)
  match marked.reverse.dropWhile (!·.2) with
  | [] => none
  | _ :: earlier =>
    match earlier.dropWhile (!·.2) with
    | [] => some ⟨if path.isAbsolute then "/" else ""⟩
    | kept =>
      some ⟨String.ofList (['/'].intercalate (kept.reverse.map (·.1)))⟩

end Path

end ExportAudit
