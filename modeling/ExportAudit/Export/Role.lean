import ExportAudit.Dump.Line

/-!
# What a dump line means for a module's exports

Four kinds of declaration matter.  An export declaration opens an export block,
and the block is the module's own if the token after the first `in` is the
module's name or ends in a dot and that name.  A namespace declaration names a
namespace, unless it is anonymous.  A using declaration imports a name of the
qualifying namespace.  An implicit shadow declaration tells what kind of
declaration stands behind the name.

The importable names are plain identifiers, **so a using declaration of an
operator or of another namespace has no role.**
-/

namespace ExportAudit.Export

set_option autoImplicit false

open ExportAudit.Text ExportAudit.Dump

/-- The role of a line in the search for exports. -/
inductive Role where
  /-- An export block, the module's own or another's. -/
  | exportBlock (own : Bool)
  /-- A namespace, with its name unless it is anonymous. -/
  | namespaceBlock (name : Option String)
  /-- A using declaration of a name of the qualifying namespace, with its printed line. -/
  | usingName (name : String) (line : Option Nat)
  /-- The declaration behind a used name. -/
  | shadow (declaration name : String)
  /-- Nothing that matters. -/
  | other
  deriving DecidableEq, Repr

/-! ## Node kinds that matter -/

/-- The kind of export blocks. -/
def exportKind : String := "ExportDecl"

/-- The kind of namespaces. -/
def namespaceKind : String := "NamespaceDecl"

/-- The kind of using declarations. -/
def usingKind : String := "UsingDecl"

/-- The kind of the declarations behind used names. -/
def shadowKind : String := "UsingShadowDecl"

/-! ## Reading the parts of a line -/

/-- The owner printed after the first `in`. -/
def owner? (line : Line) : Option (List Char) :=
  ((tokens line.rest).dropWhile (· != ['i', 'n']))[1]?

/-- An owner is a module itself, or a dotted name that ends in it. -/
def isOwnedBy (owner moduleName : List Char) : Bool :=
  owner == moduleName || ('.' :: moduleName).isSuffixOf owner

/-- The line names the module as its owner. -/
def ownedBy (line : Line) (moduleName : String) : Bool :=
  (owner? line).any (isOwnedBy · moduleName.toList)

/-- The name of a namespace: the last token, or the one before the flag of an
inline namespace, if it is an identifier. -/
def namespaceName? (line : Line) : Option String :=
  let name :=
    match (tokens line.rest).reverse with
    | [] => none
    | last :: earlier => if last = "inline".toList then earlier.head? else some last
  (name.filter isIdentifier).map String.ofList

/-- The name imported by a using declaration of a name in the namespace. -/
def importedName? (line : Line) (qualifier : String) : Option String := do
  let tail ← after? separator (← after? qualifier.toList (← line.trailingName?))
  let name := lastSegment tail
  if isIdentifier name then some (String.ofList name) else none

/-- The first quoted word before the next newline. -/
def quotedWord? : List Char → Option (List Char)
  | [] => none
  | c :: rest =>
    let here := do
      let (word, tail) ← run? isWord (← after? ['\''] (c :: rest))
      let _ ← after? ['\''] tail
      some word
    here <|> if c = '\n' then none else quotedWord? rest

/-- The declaration and the name behind an implicit shadow, at the start of a word. -/
def shadowAt? (before : Option Char) (text : List Char) : Option (String × String) := do
  if wordAt before then none
  else
    let (declaration, rest) ← run? isWord (← afterBlanks? (← after? "implicit".toList text))
    let name ← quotedWord? (← afterBlanks? rest)
    some (String.ofList declaration, String.ofList name)

/-! ## The role -/

/-- The role of a line for one module, whose imports a namespace qualifies. -/
def Role.of (line : Line) (moduleName qualifier : String) : Role :=
  if line.kind = some exportKind then .exportBlock (ownedBy line moduleName)
  else if line.kind = some namespaceKind then .namespaceBlock (namespaceName? line)
  else if line.kind = some usingKind then
    match importedName? line qualifier with
    | some name => .usingName name line.lineNumber?
    | none => .other
  else if line.kind = some shadowKind then
    match first? shadowAt? none line.rest with
    | some (declaration, name) => .shadow declaration name
    | none => .other
  else .other

end ExportAudit.Export
