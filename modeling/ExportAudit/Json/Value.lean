import ExportAudit.Decimal.Shortest

/-!
# JSON values and their text

A value keeps the members of an object in the order in which they were put there,
and a number as its literal text, so that **what is printed is what was built.**
Strings are printed with escapes for the quote, the backslash and the control
characters and with everything else as it is.

There are two layouts.  The compact one has no blanks.  The pretty one puts every
element and member on a line of its own, two blanks deeper than its container, and
keeps empty containers closed up.
-/

namespace ExportAudit

set_option autoImplicit false

/-- A JSON value. -/
inductive Json where
  | null
  | bool (value : Bool)
  | number (literal : String)
  | string (value : String)
  | array (items : List Json)
  | object (members : List (String × Json))

namespace Json

/-! ## Building values -/

/-- A natural number. -/
def ofNat (n : Nat) : Json := .number (toString n)

/-- An integer. -/
def ofInt (n : Int) : Json := .number (toString n)

/-- A ratio of counts, printed as its nearest double. -/
def ofFraction (x : Fraction) : Json := .number (Decimal.renderRatio x)

/-- A list of strings. -/
def ofStrings (items : List String) : Json := .array (items.map .string)

/-- A value or null. -/
def ofOption {α : Type} (encode : α → Json) : Option α → Json
  | none => .null
  | some value => encode value

/-- A member that is left out when its value is absent. -/
def optionalMember {α : Type} (name : String) (encode : α → Json) : Option α → List (String × Json)
  | none => []
  | some value => [(name, encode value)]

/-! ## Strings -/

/-- The lower-case hexadecimal digit of a number below sixteen. -/
def hexDigit (n : Nat) : Char :=
  if n < 10 then Char.ofNat (48 + n) else Char.ofNat (87 + n)

/-- The text of one character inside a string. -/
def escape (c : Char) : List Char :=
  if c = '"' then ['\\', '"']
  else if c = '\\' then ['\\', '\\']
  else if c = '\x08' then ['\\', 'b']
  else if c = '\x0c' then ['\\', 'f']
  else if c = '\n' then ['\\', 'n']
  else if c = '\r' then ['\\', 'r']
  else if c = '\t' then ['\\', 't']
  else if c.toNat < 32 then
    ['\\', 'u', '0', '0', hexDigit (c.toNat / 16), hexDigit (c.toNat % 16)]
  else [c]

/-- The text of a string, with its quotes. -/
def quote (value : String) : List Char :=
  '"' :: (value.toList.flatMap escape ++ ['"'])

/-! ## Layouts -/

mutual
/-- The text of a value without blanks. -/
def compactChars : Json → List Char
  | .null => "null".toList
  | .bool value => (if value then "true" else "false").toList
  | .number literal => literal.toList
  | .string value => quote value
  | .array items => '[' :: (compactItems items ++ [']'])
  | .object members => '\x7b' :: (compactMembers members ++ ['\x7d'])

/-- The elements of an array, separated by commas. -/
def compactItems : List Json → List Char
  | [] => []
  | [item] => compactChars item
  | item :: rest => compactChars item ++ ',' :: compactItems rest

/-- The members of an object, separated by commas. -/
def compactMembers : List (String × Json) → List Char
  | [] => []
  | [(name, value)] => quote name ++ ':' :: compactChars value
  | (name, value) :: rest => quote name ++ ':' :: (compactChars value ++ ',' :: compactMembers rest)
end

/-- A new line at a level of nesting. -/
def newLine (level : Nat) : List Char :=
  '\n' :: List.replicate (2 * level) ' '

mutual
/-- The text of a value whose container stands at a level of nesting. -/
def prettyChars (level : Nat) : Json → List Char
  | .null => "null".toList
  | .bool value => (if value then "true" else "false").toList
  | .number literal => literal.toList
  | .string value => quote value
  | .array [] => ['[', ']']
  | .array (item :: rest) =>
    '[' :: (newLine (level + 1) ++ prettyChars (level + 1) item ++ prettyItems (level + 1) rest ++
      newLine level ++ [']'])
  | .object [] => ['\x7b', '\x7d']
  | .object ((name, value) :: rest) =>
    '\x7b' :: (newLine (level + 1) ++ quote name ++ [':', ' '] ++ prettyChars (level + 1) value ++
      prettyMembers (level + 1) rest ++ newLine level ++ ['\x7d'])

/-- The elements after the first, each on its line. -/
def prettyItems (level : Nat) : List Json → List Char
  | [] => []
  | item :: rest => ',' :: (newLine level ++ prettyChars level item ++ prettyItems level rest)

/-- The members after the first, each on its line. -/
def prettyMembers (level : Nat) : List (String × Json) → List Char
  | [] => []
  | (name, value) :: rest =>
    ',' :: (newLine level ++ quote name ++ [':', ' '] ++ prettyChars level value ++
      prettyMembers level rest)
end

/-- The compact text of a value. -/
def compact (value : Json) : String :=
  String.ofList (compactChars value)

/-- The pretty text of a value. -/
def pretty (value : Json) : String :=
  String.ofList (prettyChars 0 value)

end Json

end ExportAudit
