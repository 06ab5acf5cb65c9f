/-!
# UTF-8

Bytes are cut from left to right into characters and broken pieces.  A broken piece
is the longest start of a character that its next byte, or the end, does not let
go on, or else a single byte that starts none.  A strict reading wants no broken
piece; **a lenient one puts one replacement character in the place of each.**
-/

namespace ExportAudit.Text

set_option autoImplicit false

/-- A byte that continues a character. -/
def isContinuation (byte : UInt8) : Bool :=
  0x80 ≤ byte && byte ≤ 0xBF

/-- How a lead byte goes on: how many bytes follow it, and the range of the first
of them. -/
def leadOf? (byte : UInt8) : Option (Nat × UInt8 × UInt8) :=
  if byte ≤ 0x7F then some (0, 0x80, 0xBF)
  else if 0xC2 ≤ byte && byte ≤ 0xDF then some (1, 0x80, 0xBF)
  else if byte == 0xE0 then some (2, 0xA0, 0xBF)
  else if byte == 0xED then some (2, 0x80, 0x9F)
  else if 0xE1 ≤ byte && byte ≤ 0xEF then some (2, 0x80, 0xBF)
  else if byte == 0xF0 then some (3, 0x90, 0xBF)
  else if 0xF1 ≤ byte && byte ≤ 0xF3 then some (3, 0x80, 0xBF)
  else if byte == 0xF4 then some (3, 0x80, 0x8F)
  else none

/-- The bytes that continue a character, as far as they are right. -/
def continuations (count : Nat) (low high : UInt8) : List UInt8 → List UInt8
  | [] => []
  | byte :: rest =>
    if count = 0 then []
    else if low ≤ byte && byte ≤ high then
      byte :: (rest.takeWhile isContinuation).take (count - 1)
    else []

/-- The bits that a lead byte gives to its character. -/
def leadBits (count : Nat) (byte : UInt8) : Nat :=
  match count with
  | 0 => byte.toNat
  | 1 => byte.toNat % 32
  | 2 => byte.toNat % 16
  | _ => byte.toNat % 8

/-- The piece at the head of some bytes, a character or a broken one, and its size. -/
def pieceAt (byte : UInt8) (rest : List UInt8) : Option Char × Nat :=
  match leadOf? byte with
  | none => (none, 1)
  | some (count, low, high) =>
    let more := continuations count low high rest
    if more.length = count then
      let code := more.foldl (fun value b => value * 64 + b.toNat % 64) (leadBits count byte)
      (some (Char.ofNat code), 1 + count)
    else (none, 1 + more.length)

/-- The pieces of some bytes, after skipping a few. -/
def piecesFrom : Nat → List UInt8 → List (Option Char)
  | _, [] => []
  | skip + 1, _ :: rest => piecesFrom skip rest
  | 0, byte :: rest =>
    let (piece, size) := pieceAt byte rest
    piece :: piecesFrom (size - 1) rest

/-- The text of some bytes, if they hold no broken piece. -/
def decode? (bytes : List UInt8) : Option String :=
  ((piecesFrom 0 bytes).mapM id).map String.ofList

/-- The text of some bytes, with a replacement character for each broken piece. -/
def decodeLossy (bytes : List UInt8) : String :=
  String.ofList ((piecesFrom 0 bytes).map (·.getD '\ufffd'))

/-- The bytes of a text. -/
def encode (text : String) : List UInt8 :=
  text.toUTF8.toList

end ExportAudit.Text
