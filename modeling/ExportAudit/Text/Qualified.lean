import ExportAudit.Text.Search
import ExportAudit.Text.Word

/-!
# Qualified names

A qualified name is a chain of segments separated by double colons.  Two
readings of the separator occur.  From the left, a name is a chain whose first
segment starts like an identifier and whose later segments may also start with
a tilde.  From the right, the last segment of any text is what follows its last
double colon, even if a third colon stands before it.
-/

namespace ExportAudit.Text

set_option autoImplicit false

/-- The separator of segments. -/
def separator : List Char := [':', ':']

/-! ## The last segment -/

/-- What follows the last double colon. -/
def afterLastSeparator? : List Char → Option (List Char)
  | [] => none
  | c :: rest => afterLastSeparator? rest <|> after? separator (c :: rest)

/-- The last segment of a text: all of it if it holds no double colon. -/
def lastSegment (text : List Char) : List Char :=
  (afterLastSeparator? text).getD text

/-! ## Chains of segments -/

/-- What may start a later segment of a qualified name. -/
def isSegmentStart (c : Char) : Bool :=
  isIdentStart c || c == '~'

/-- Reads the rest of a segment and the segments after it up to the end of the text. -/
def isNameRest : List Char → Bool
  | [] => true
  | ':' :: ':' :: c :: rest => isSegmentStart c && isNameRest rest
  | c :: rest => isWord c && isNameRest rest

/-- A qualified name: an identifier start, word characters, and further segments. -/
def isQualifiedName : List Char → Bool
  | [] => false
  | c :: rest => isIdentStart c && isNameRest rest

end ExportAudit.Text
