import ExportAudit.Dump.Line

/-!
# The name a node uses

Five kinds of expression name what they use, each in its own way.  A reference
quotes the name after the kind and address of its declaration.  A member access
gives the member after a dot or an arrow, with an address, or at the end of the
line when the member depends on a template.  A name that overload resolution has
not settled is quoted after an equals sign.  A variable names its type, and of the
type only **the outermost name** counts: no qualifiers, arguments or declarators.
-/

namespace ExportAudit.Usage

set_option autoImplicit false

open ExportAudit.Text ExportAudit.Dump

/-! ## Names of expressions -/

/-- A nonempty text between a quote at the head and the next one. -/
def quoted? (text : List Char) : Option (List Char) := do
  let (inner, tail) ← run? (· != '\'') (← after? ['\''] text)
  let _ ← after? ['\''] tail
  some inner

/-- An ASCII capital. -/
def isCapital (c : Char) : Bool := 'A' ≤ c && c ≤ 'Z'

/-- A declaration kind, its address, and a quoted name, at the start of a word. -/
def referenceAt? (before : Option Char) (text : List Char) : Option (List Char) := do
  if wordAt before || !text.head?.any isCapital then none
  else
    let rest ← afterAddress? (← afterBlanks? (text.dropWhile isWord))
    quoted? (← afterBlanks? rest)

/-- A dot or an arrow and the member's name. -/
def memberHead? (text : List Char) : Option (List Char × List Char) := do
  let rest ← after? ['.'] text <|> after? ['-', '>'] text
  if rest.head?.any isSegmentStart then
    let tail := rest.drop 1
    some (rest.take 1 ++ tail.takeWhile isWord, tail.dropWhile isWord)
  else none

/-- A member and its address. -/
def memberAt? (_ : Option Char) (text : List Char) : Option (List Char) := do
  let (name, rest) ← memberHead? text
  let _ ← afterAddress? (← afterBlanks? rest)
  some name

/-- A member at the end of the line. -/
def dependentMemberAt? (_ : Option Char) (text : List Char) : Option (List Char) := do
  let (name, rest) ← memberHead? text
  if allBlank rest then some name else none

/-- A quoted name after an equals sign. -/
def unresolvedAt? (_ : Option Char) (text : List Char) : Option (List Char) := do
  quoted? (trimStart (← after? ['='] text))

/-- The last segment of the declaration that a reference quotes. -/
def referencedName? (rest : List Char) : Option (List Char) :=
  (first? referenceAt? none rest).map lastSegment

/-- The last segment of an unresolved name. -/
def unresolvedName? (rest : List Char) : Option (List Char) :=
  (first? unresolvedAt? none rest).map lastSegment

/-- The name of a member. -/
def memberName? (rest : List Char) : Option (List Char) :=
  first? memberAt? none rest

/-- The name of a member that depends on a template. -/
def dependentMemberName? (rest : List Char) : Option (List Char) :=
  first? dependentMemberAt? none rest

/-! ## Names of types -/

/-- The words that may stand in front of a type. -/
def typeQualifiers : List (List Char) :=
  ["const ", "volatile ", "struct ", "class ", "enum ", "union "].map String.toList

/-- A type without the words in front of it; the fuel bounds their number. -/
def dropQualifiers : Nat → List Char → List Char
  | 0, text => text
  | fuel + 1, text =>
    match typeQualifiers.findSome? (after? · text) with
    | some rest => dropQualifiers fuel rest
    | none => text

/-- What may follow a type's name: references, pointers and blanks. -/
def isDeclarator (c : Char) : Bool :=
  c == '&' || c == '*' || isBlank c

/-- The outermost name of a type spelling. -/
def outerTypeName? (spelling : List Char) : Option (List Char) :=
  let plain := dropQualifiers spelling.length (trim spelling)
  let base := dropEndWhile isDeclarator (plain.takeWhile (· != '<'))
  let name := trim (lastSegment base)
  if name.isEmpty then none else some name

end ExportAudit.Usage
