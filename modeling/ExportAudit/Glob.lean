import ExportAudit.Text.Search

/-!
# Ignore patterns

A pattern is matched against a whole name.  A question mark stands for one
character, a star for any run of characters, a bracket for one character in or out
of a set, and two stars for any number of whole path components, so they must fill
a component themselves.  Neither slashes nor leading dots are special to a star.

A pattern is read once into parts.  **A pattern that cannot be read tells where
and why,** counting characters from zero.
-/

namespace ExportAudit.Glob

set_option autoImplicit false

/-- One part of a pattern. -/
inductive Part where
  /-- One given character. -/
  | literal (c : Char)
  /-- One character. -/
  | anyChar
  /-- Any run of characters. -/
  | anyRun
  /-- Any number of path components. -/
  | anyComponents
  /-- One character in one of some ranges. -/
  | within (ranges : List (Char × Char))
  /-- One character in none of some ranges. -/
  | outside (ranges : List (Char × Char))
  deriving DecidableEq, Repr

/-- A pattern. -/
abbrev Pattern := List Part

/-- Why a pattern cannot be read. -/
inductive Fault where
  /-- Three or more stars. -/
  | wildcards
  /-- Two stars that do not fill a component. -/
  | recursive
  /-- A bracket without an end, or without a character. -/
  | range
  deriving DecidableEq, Repr

/-- A fault and its position. -/
structure PatternError where
  position : Nat
  fault : Fault
  deriving DecidableEq, Repr

/-- The explanation of a fault. -/
def Fault.message : Fault → String
  | .wildcards => "wildcards are either regular \x60*\x60 or recursive \x60**\x60"
  | .recursive => "recursive wildcards must form a single path component"
  | .range => "invalid range pattern"

/-- The wording of an error. -/
def PatternError.message (error : PatternError) : String :=
  s!"Pattern syntax error near position {error.position}: {error.fault.message}"

/-! ## Reading a pattern -/

/-- The ranges that the inside of a bracket names. -/
def rangesOf : List Char → List (Char × Char)
  | low :: '-' :: high :: rest => (low, high) :: rangesOf rest
  | c :: rest => (c, c) :: rangesOf rest
  | [] => []

/-- The inside of a bracket and what follows it; the first character inside never
closes the bracket. -/
def bracket? : List Char → Option (List Char × List Char)
  | [] => none
  | first :: rest =>
    if rest.contains ']' then
      some (first :: rest.takeWhile (· != ']'), (rest.dropWhile (· != ']')).drop 1)
    else none

/-- Reads the parts of a pattern from a position, knowing the character before it;
the fuel bounds the number of parts. -/
def readFrom : Nat → Nat → Option Char → List Char → Except PatternError Pattern
  | 0, _, _, _ => .ok []
  | _ + 1, _, _, [] => .ok []
  | fuel + 1, position, before, c :: rest =>
    if c = '?' then (readFrom fuel (position + 1) (some c) rest).map (.anyChar :: ·)
    else if c = '*' then
      let stars := 1 + (rest.takeWhile (· == '*')).length
      let tail := rest.dropWhile (· == '*')
      if 2 < stars then .error ⟨position + 2, .wildcards⟩
      else if stars = 1 then (readFrom fuel (position + 1) (some c) rest).map (.anyRun :: ·)
      else if before.all (· == '/') then
        match tail with
        | [] => .ok [.anyComponents]
        | next :: rest =>
          if next = '/' then
            (readFrom fuel (position + 3) (some next) rest).map (.anyComponents :: ·)
          else .error ⟨position + 2, .recursive⟩
      else .error ⟨position - 1, .recursive⟩
    else if c = '[' then
      let negated := rest.head? = some '!'
      match bracket? (if negated then rest.drop 1 else rest) with
      | none => .error ⟨position, .range⟩
      | some (inside, tail) =>
        let ranges := rangesOf inside
        let width := inside.length + (if negated then 3 else 2)
        (readFrom fuel (position + width) (some ']') tail).map
          ((if negated then .outside ranges else .within ranges) :: ·)
    else (readFrom fuel (position + 1) (some c) rest).map (.literal c :: ·)

/-- Reads a pattern. -/
def read (text : String) : Except PatternError Pattern :=
  readFrom text.length 0 none text.toList

/-! ## Matching -/

/-- A part that stands for one character accepts it. -/
def Part.accepts (c : Char) : Part → Bool
  | .literal expected => c == expected
  | .anyChar => true
  | .within ranges => ranges.any fun (low, high) => low ≤ c && c ≤ high
  | .outside ranges => !ranges.any fun (low, high) => low ≤ c && c ≤ high
  | .anyRun | .anyComponents => false

/-- A text and everything that is left of it after some characters. -/
def suffixes : List Char → List (List Char)
  | [] => [[]]
  | c :: rest => (c :: rest) :: suffixes rest

/-- What is left of a text after each of its slashes. -/
def afterSlashes : List Char → List (List Char)
  | [] => []
  | c :: rest => if c = '/' then rest :: afterSlashes rest else afterSlashes rest

/-- A pattern stands for a whole text. -/
def fits : Pattern → List Char → Bool
  | [], text => text.isEmpty
  | .anyRun :: parts, text => (suffixes text).any (fits parts)
  | .anyComponents :: parts, text => (text :: (afterSlashes text ++ [[]])).any (fits parts)
  | _ :: _, [] => false
  | part :: parts, c :: rest => part.accepts c && fits parts rest

end ExportAudit.Glob
