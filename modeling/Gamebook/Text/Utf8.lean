import Gamebook.Text.Digit

/-! Decoding of UTF-8 that reports the first ill-formed sequence. -/

namespace Gamebook.Text

/-- Why a byte sequence is not UTF-8. -/
inductive Utf8Problem where
  | startByte
  | continuationByte
  | endOfData
  deriving DecidableEq, Repr

/-- The first ill-formed sequence: its position, its bytes and what is wrong with it. -/
structure Utf8Fault where
  position : Nat
  bytes : List UInt8
  problem : Utf8Problem
  deriving DecidableEq, Repr

/-- What is wrong with a sequence, in words. -/
def Utf8Problem.message : Utf8Problem → String
  | .startByte => "invalid start byte"
  | .continuationByte => "invalid continuation byte"
  | .endOfData => "unexpected end of data"

/-- The report of an ill-formed sequence. -/
def Utf8Fault.message (fault : Utf8Fault) : String :=
  let place := match fault.bytes with
    | [byte] => "byte 0x" ++ hex 2 byte.toNat ++ s!" in position {fault.position}"
    | _ => s!"bytes in position {fault.position}-{fault.position + fault.bytes.length - 1}"
  "'utf-8' codec can't decode " ++ place ++ ": " ++ fault.problem.message

/-- The shape of a sequence by its first byte: the bits it carries, the bounds of the second byte
and the number of bytes that follow. -/
def leadByte? (byte : Nat) : Option (Nat × Nat × Nat × Nat) :=
  if 0xc2 ≤ byte ∧ byte ≤ 0xdf then some (byte - 0xc0, 0x80, 0xbf, 1)
  else if byte = 0xe0 then some (0, 0xa0, 0xbf, 2)
  else if byte = 0xed then some (0xd, 0x80, 0x9f, 2)
  else if 0xe1 ≤ byte ∧ byte ≤ 0xef then some (byte - 0xe0, 0x80, 0xbf, 2)
  else if byte = 0xf0 then some (0, 0x90, 0xbf, 3)
  else if byte = 0xf4 then some (4, 0x80, 0x8f, 3)
  else if 0xf1 ≤ byte ∧ byte ≤ 0xf3 then some (byte - 0xf0, 0x80, 0xbf, 3)
  else none

/-- Reads `count` continuation bytes, the first between two bounds.
A failure carries the bytes that were accepted. -/
def continuation (low high value : Nat) (taken : List UInt8) :
    Nat → List UInt8 → Except (List UInt8 × Utf8Problem) (Nat × List UInt8 × List UInt8)
  | 0, rest => .ok (value, taken, rest)
  | _ + 1, [] => .error (taken.reverse, .endOfData)
  | count + 1, byte :: rest =>
    if low ≤ byte.toNat ∧ byte.toNat ≤ high
    then continuation 0x80 0xbf (value * 64 + (byte.toNat - 0x80)) (byte :: taken) count rest
    else .error (taken.reverse, .continuationByte)

/-- Decodes bytes from a position on; `fuel` bounds the number of characters. -/
def decodeFrom (acc : List Char) (position : Nat) :
    Nat → List UInt8 → Except Utf8Fault (List Char)
  | _, [] => .ok acc.reverse
  | 0, _ => .ok acc.reverse
  | fuel + 1, byte :: rest =>
    if byte < 0x80 then decodeFrom (Char.ofNat byte.toNat :: acc) (position + 1) fuel rest
    else match leadByte? byte.toNat with
      | none => .error ⟨position, [byte], .startByte⟩
      | some (bits, low, high, count) =>
        match continuation low high bits [byte] count rest with
        | .ok (value, _, rest) =>
          decodeFrom (Char.ofNat value :: acc) (position + count + 1) fuel rest
        | .error (bytes, problem) => .error ⟨position, bytes, problem⟩

/-- The characters of a UTF-8 text. -/
def decodeUtf8 (bytes : List UInt8) : Except Utf8Fault (List Char) :=
  decodeFrom [] 0 bytes.length bytes

/-- The characters of bytes, with a replacement character for each ill-formed sequence. -/
def decodeLossy : Nat → List UInt8 → List Char
  | 0, _ => []
  | fuel + 1, bytes =>
    match decodeUtf8 bytes with
    | .ok chars => chars
    | .error fault =>
      match decodeUtf8 (bytes.take fault.position) with
      | .ok chars =>
        chars ++ '\uFFFD' :: decodeLossy fuel (bytes.drop (fault.position + fault.bytes.length))
      | .error _ => []

/-- The size of the pieces in which a long file is read. -/
def pieceSize : Nat := 8192

/-- The characters of a UTF-8 text that is read in pieces. A sequence that is cut off at the end of
a piece is left over to the next one, and the position of a fault counts from what was left over. -/
def decodePieces : Nat → List UInt8 → List UInt8 → Except Utf8Fault (List Char)
  | 0, _, _ => .ok []
  | fuel + 1, leftover, bytes =>
    let piece := leftover ++ bytes.take pieceSize
    let rest := bytes.drop pieceSize
    match decodeUtf8 piece with
    | .ok chars =>
      if rest.isEmpty then .ok chars
      else (decodePieces fuel [] rest).map (chars ++ ·)
    | .error fault =>
      if fault.problem = .endOfData then
        if bytes.isEmpty then .error fault
        else do
          let chars ← decodeUtf8 (piece.take fault.position)
          return chars ++ (← decodePieces fuel (piece.drop fault.position) rest)
      else .error fault

end Gamebook.Text
