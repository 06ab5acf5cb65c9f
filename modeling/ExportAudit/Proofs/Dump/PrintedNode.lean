import ExportAudit.Dump.Line
import ExportAudit.Proofs.Dump.PrintedLocation
import ExportAudit.Proofs.Text.Identifier

/-!
# Nodes as they are printed

A node prints its drawing, its kind, its address and its locations, the first of them
behind a bracket.  Reading the line takes these apart again.  The address is a word
without a colon, so **the first location of a header is the one printed behind the
bracket.**
-/

namespace ExportAudit.Dump

set_option autoImplicit false

open ExportAudit.Text

/-! ## Up to the bracket -/

/-- What a node prints in front of its locations. -/
structure NodeHead where
  drawing : List Char
  kind : List Char
  /-- The hexadecimal digits of the address. -/
  digits : List Char
  glyphs : drawing.all isGlyph = true
  isKind : isIdentifier kind = true
  hexadecimal : digits.all isHexDigit = true
  nonempty : digits ≠ []

namespace NodeHead

/-- The text between the kind and the first location. -/
def address (head : NodeHead) : List Char :=
  ' ' :: ('0' :: 'x' :: head.digits ++ [' ', '<'])

/-- A line with its locations and what follows them. -/
def text (head : NodeHead) (rest : List Char) : List Char :=
  head.drawing ++ (head.kind ++ (head.address ++ rest))

end NodeHead

theorem isGlyph_eq_false_of_isIdentStart {c : Char} (start : isIdentStart c = true) :
    isGlyph c = false := by
  have other (mark : Char) (notStart : isIdentStart mark = false) : c ≠ mark := by
    rintro rfl
    simp [notStart] at start
  simp [isGlyph, other ' ' (by decide), other '|' (by decide), other '\x60' (by decide),
    other '-' (by decide)]

/-- An identifier is a word without a colon. -/
theorem plain_of_isIdentRest {word : List Char} (goesOn : ∀ c ∈ word, isIdentRest c = true) :
    Plain word := by
  intro c member
  have other (mark : Char) (notRest : isIdentRest mark = false) : c ≠ mark := by
    rintro rfl
    exact absurd (goesOn c member) (by simp [notRest])
  simp [isPathChar, isBlank_eq_false_of_isWord (isWord_of_isIdentRest (goesOn c member)),
    other '<' (by decide), other '>' (by decide), other ',' (by decide),
    other '\'' (by decide), other ':' (by decide)]

theorem isIdentRest_of_isHexDigit {c : Char} (digit : isHexDigit c = true) :
    isIdentRest c = true := by
  simp only [isHexDigit, Bool.or_eq_true, Bool.and_eq_true, decide_eq_true_eq] at digit
  simp only [isIdentRest, isIdentStart, isAsciiLetter, Bool.or_eq_true, Bool.and_eq_true,
    decide_eq_true_eq]
  rcases digit with (digit | ⟨low, high⟩) | ⟨low, high⟩
  · exact .inr digit
  · exact .inl (.inl (.inl ⟨low, Char.le_trans high (by decide : 'f' ≤ 'z')⟩))
  · exact .inl (.inl (.inr ⟨low, Char.le_trans high (by decide : 'F' ≤ 'Z')⟩))

/-- **A kind is told from the rest by where its identifier ends.** -/
theorem splitKind_identifier {kind rest : List Char} (isKind : isIdentifier kind = true)
    (stops : Stops isIdentRest rest) (addressed : hasAddress rest = true) :
    splitKind (kind ++ rest) = (some (String.ofList kind), rest) := by
  have token : kindToken (kind ++ rest) = kind := by
    have noDigit : ¬ (kind ++ rest).head?.any isAsciiDigit = true := by
      cases kind with
      | nil => simp [isIdentifier] at isKind
      | cons c kind => simp [isAsciiDigit_eq_false_of_isIdentStart (isIdentifier_cons.1 isKind).1]
    rw [kindToken, if_neg noDigit, takeWhile_run (isIdentRest_of_isIdentifier isKind) stops]
  rw [splitKind, token, List.drop_left]
  exact if_pos (by simp [addressed, ne_nil_of_isIdentifier isKind])

/-- A blank and the first digit make an address. -/
theorem hasAddress_of_isHexDigit {digit : Char} (isDigit : isHexDigit digit = true)
    (rest : List Char) : hasAddress (' ' :: '0' :: 'x' :: digit :: rest) = true := by
  have blanks : afterBlanks? (' ' :: '0' :: 'x' :: digit :: rest) =
      some ('0' :: 'x' :: digit :: rest) :=
    afterBlanks?_blank (by decide) (stops_cons.2 (by decide))
  have digits : run? isHexDigit (digit :: rest) =
      some (digit :: rest.takeWhile isHexDigit, rest.dropWhile isHexDigit) := by
    simp [run?, isDigit]
  rw [hasAddress, blanks]
  simp [afterAddress?, after?, digits]

/-- **A drawing, a kind and an address make a node.** -/
theorem Line.parse_drawn {drawing kind rest : List Char} (glyphs : drawing.all isGlyph = true)
    (isKind : isIdentifier kind = true) (stops : Stops isIdentRest rest)
    (addressed : hasAddress rest = true) (index : Nat) :
    Line.parse index (drawing ++ (kind ++ rest)) =
      { index
        depth := drawing.length / 2
        lastSibling := lastChildMark.isSuffixOf drawing
        kind := some (String.ofList kind)
        rest
        locations := locationsOf (headerOf rest) } := by
  have body : Stops isGlyph (kind ++ rest) := by
    cases kind with
    | nil => exact absurd rfl (ne_nil_of_isIdentifier isKind)
    | cons c kind =>
      exact stops_cons.2 (isGlyph_eq_false_of_isIdentStart (isIdentifier_cons.1 isKind).1)
  have glyphs := List.all_eq_true.1 glyphs
  rw [Line.parse, takeWhile_run glyphs body, dropWhile_run glyphs body,
    splitKind_identifier isKind stops addressed]

theorem headerOf_append {run : List Char} (unquoted : ∀ c ∈ run, c ≠ '\'') (rest : List Char) :
    headerOf (run ++ rest) = run ++ headerOf rest :=
  List.takeWhile_append_of_pos fun c member => bne_iff_ne.2 (unquoted c member)

namespace NodeHead

variable (head : NodeHead) {rest : List Char}

theorem plain_digits : Plain ('0' :: 'x' :: head.digits) := by
  refine plain_of_isIdentRest ?_
  simp only [List.mem_cons]
  rintro c (rfl | rfl | member)
  · decide
  · decide
  · exact isIdentRest_of_isHexDigit (List.all_eq_true.1 head.hexadecimal c member)

theorem hasAddress_address (rest : List Char) : hasAddress (head.address ++ rest) = true := by
  obtain ⟨digit, digits, isCons⟩ := List.exists_cons_of_ne_nil head.nonempty
  have isDigit : isHexDigit digit = true :=
    List.all_eq_true.1 head.hexadecimal digit (by rw [isCons]; exact List.mem_cons_self)
  rw [address, isCons]
  exact hasAddress_of_isHexDigit isDigit (digits ++ [' ', '<'] ++ rest)

theorem parse_text (index : Nat) (rest : List Char) : Line.parse index (head.text rest) =
    { index
      depth := head.drawing.length / 2
      lastSibling := lastChildMark.isSuffixOf head.drawing
      kind := some (String.ofList head.kind)
      rest := head.address ++ rest
      locations := locationsOf (headerOf (head.address ++ rest)) } :=
  Line.parse_drawn head.glyphs head.isKind (stops_cons.2 (by decide))
    (head.hasAddress_address rest) index

theorem ne_quote_of_mem_address : ∀ c ∈ head.address, c ≠ '\'' := by
  simp only [address, List.mem_cons, List.mem_append, List.not_mem_nil, or_false]
  rintro c (rfl | (rfl | rfl | member) | rfl | rfl)
  · decide
  · decide
  · decide
  · exact ne_quote_of_isPathChar (head.plain_digits.tail.tail.path c member)
  · decide
  · decide

/-- The address and the bracket are a gap in front of the first location. -/
theorem isGap_address {location : Location} (printable : location.IsPrintable)
    (stops : Stops isPathChar rest) :
    Location.IsGap head.address (location.render ++ rest) := by
  have isLast : head.address.getLast? = some '<' := by
    simp [address, List.getLast?_cons, List.getLast?_append]
  refine ⟨?_, ?_, ?_⟩
  · have blankNext : Stops isPathChar ([' ', '<'] ++ (location.render ++ rest)) :=
      stops_cons.2 (by decide)
    have brackets : Passes Location.at? [' ', '<'] (location.render ++ rest) :=
      passes_cons.2 ⟨Location.at?_separator (by decide) (by decide),
        passes_cons.2 ⟨Location.at?_bracket printable stops, passes_nil⟩⟩
    exact passes_cons.2 ⟨Location.at?_separator (by decide) (by decide),
      passes_append.2 ⟨Location.passes_plain head.plain_digits blankNext, brackets⟩⟩
  · rw [isLast]
    decide
  · simp [address]

/-- **The first location of a header is the one behind the bracket.** -/
theorem locations_parse_text {location : Location} (printable : location.IsPrintable)
    (stops : Stops isPathChar rest) (index : Nat) :
    (Line.parse index (head.text (location.render ++ rest))).locations =
      location :: allFrom Location.at? 0 location.render.getLast? (headerOf rest) := by
  have stops' : Stops isPathChar (headerOf rest) := stops.takeWhile _
  rw [parse_text, headerOf_append head.ne_quote_of_mem_address,
    headerOf_append (Location.ne_quote_of_mem_render printable)]
  exact Location.allFrom_gap printable (head.isGap_address printable stops') stops' none

end NodeHead

/-! ## Lines in order -/

/-- The lines read from some texts, counted from an index. -/
def parsedFrom (index : Nat) (texts : List (List Char)) : List Line :=
  (texts.zipIdx index).map fun (raw, index) => Line.parse index raw

theorem parsedFrom_cons (index : Nat) (raw : List Char) (texts : List (List Char)) :
    parsedFrom index (raw :: texts) = Line.parse index raw :: parsedFrom (index + 1) texts := by
  simp [parsedFrom, List.zipIdx_cons]

theorem parsedFrom_append (index : Nat) (first second : List (List Char)) :
    parsedFrom index (first ++ second) =
      parsedFrom index first ++ parsedFrom (index + first.length) second := by
  simp [parsedFrom, List.zipIdx_append]

@[simp]
theorem length_parsedFrom (index : Nat) (texts : List (List Char)) :
    (parsedFrom index texts).length = texts.length := by
  simp [parsedFrom]

end ExportAudit.Dump
