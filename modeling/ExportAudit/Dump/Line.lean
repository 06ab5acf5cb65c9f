import ExportAudit.Dump.Location
import ExportAudit.Text.Pieces
import ExportAudit.Text.Qualified

/-!
# Lines of a declaration dump

A dump is a tree printed one node per line.  The characters in front of a node
draw the tree, two per level, so they give the node's depth, and they end in a
backquote and a dash when the node is the last child of its parent.  After them
comes the node kind, and after the kind everything else.

A word is a node kind only if an address follows it, or if it is the kind of the
root.  Compiler diagnostics, placeholders and detail lines have no kind; for them
**the rest is the whole line after the drawing.**
-/

namespace ExportAudit.Dump

set_option autoImplicit false

open ExportAudit.Text

/-- One line of a dump. -/
structure Line where
  /-- Position of the line in its dump, from zero. -/
  index : Nat
  /-- Depth of the node in the tree. -/
  depth : Nat
  /-- The drawing says that no sibling follows. -/
  lastSibling : Bool
  /-- The node kind, for lines that are nodes. -/
  kind : Option String
  /-- What follows the kind. -/
  rest : List Char
  /-- The locations of the header, the part of the rest before its first quote. -/
  locations : List Location
  deriving DecidableEq, Repr

/-! ## Reading a line -/

/-- The kind of the root node. -/
def rootKind : String := "TranslationUnitDecl"

/-- The characters that draw the tree. -/
def isGlyph (c : Char) : Bool :=
  c == ' ' || c == '|' || c == '\x60' || c == '-'

/-- The end of the drawing in front of a last child. -/
def lastChildMark : List Char := ['\x60', '-']

/-- The hexadecimal digits. -/
def isHexDigit (c : Char) : Bool :=
  isAsciiDigit c || ('a' ≤ c && c ≤ 'f') || ('A' ≤ c && c ≤ 'F')

/-- What follows an address: zero, x, and a run of hexadecimal digits. -/
def afterAddress? (text : List Char) : Option (List Char) := do
  let (_, rest) ← run? isHexDigit (← after? ['0', 'x'] text)
  some rest

/-- A rest that goes on with blanks and an address. -/
def hasAddress (rest : List Char) : Bool :=
  ((afterBlanks? rest).bind afterAddress?).isSome

/-- The word at the head that could be a node kind. -/
def kindToken (body : List Char) : List Char :=
  if body.head?.any isAsciiDigit then [] else body.takeWhile isIdentRest

/-- The node kind and the rest of a line without its drawing. -/
def splitKind (body : List Char) : Option String × List Char :=
  let token := kindToken body
  let rest := body.drop token.length
  if String.ofList token = rootKind || (!token.isEmpty && hasAddress rest) then
    (some (String.ofList token), rest)
  else (none, body)

/-- The part of a rest before its first quote. -/
def headerOf (rest : List Char) : List Char :=
  rest.takeWhile (· != '\'')

/-- Reads one line. -/
def Line.parse (index : Nat) (raw : List Char) : Line :=
  let drawing := raw.takeWhile isGlyph
  let (kind, rest) := splitKind (raw.dropWhile isGlyph)
  { index
    depth := drawing.length / 2
    lastSibling := lastChildMark.isSuffixOf drawing
    kind
    rest
    locations := locationsOf (headerOf rest) }

/-- Reads the lines of a dump. -/
def parseDump (dump : String) : List Line :=
  (lines dump.toList).zipIdx.map fun (raw, index) => Line.parse index raw

/-! ## What a line says -/

namespace Line

/-- The line is a node. -/
def isNode (line : Line) : Bool :=
  line.kind.isSome

/-- The first line number that the header prints. -/
def lineNumber? (line : Line) : Option Nat :=
  line.locations.findSome? Location.lineNumber?

/-- The last token, if it is a qualified name. -/
def trailingName? (line : Line) : Option (List Char) :=
  (tokens line.rest).getLast?.filter isQualifiedName

/-- The text between the first two quotes. -/
def firstQuoted? (line : Line) : Option (List Char) :=
  match line.rest.dropWhile (· != '\'') with
  | [] => none
  | _ :: text => if text.contains '\'' then some (text.takeWhile (· != '\'')) else none

end Line

end ExportAudit.Dump
