import CodeCensus.Text.Utf8

/-!
# Reading text piece by piece

A file that is asked for a block of characters at a time is decoded in pieces of bytes. The bytes of a
character that the end of a piece breaks off are held back for the next piece, and the position in an
error counts from the first byte that was decoded together with it.

Contents: `blockSize`, `Piecewise`, `decodePieces`.
-/

namespace CodeCensus
namespace Text

/-- The number of characters that are asked for at a time. -/
def blockSize : Nat := 4096

/-- The least number of bytes in a piece, the last one apart. -/
def pieceSize : Nat := 8192

/-- The outcome of reading in pieces: the characters in front of the first offence, and the offence. -/
structure Piecewise where
  chars : List Char
  error : Option Utf8Error
  deriving DecidableEq, Repr

/-- The bytes at the end of a piece may still become a character: a sequence that breaks off, or the front
    of a surrogate. -/
def isHeldBack (tail : List UInt8) (fault : Utf8Fault) : Bool :=
  fault = .unexpectedEnd ||
    match tail with
    | [a, b] => a = 0xed && 0xa0 ≤ b && b ≤ 0xbf
    | _ => false

/-- The characters that are at hand after some have been decoded: a carriage return at the end waits for
    what follows it. -/
def atHand (decoded : List Char) : List Char :=
  universalNewlines (if decoded.getLast? = some '\r' then decoded.dropLast else decoded)

/-- The size of the next piece, from the number of characters at hand and the bytes and characters of the
    last piece: enough for the block that is being asked for, if the characters are as wide as before. -/
def nextPiece (count lastBytes lastChars : Nat) : Nat :=
  let wanted := blockSize * (count / blockSize + 1) - count
  max pieceSize (lastBytes * wanted / lastChars)

/-- Decodes the rest of a file; `held` was held back by the last piece and `decoded` is done. -/
def piecesFrom : Nat → (rest held : List UInt8) → (decoded : List Char) → (lastBytes lastChars : Nat) →
    Piecewise
  | 0, _, _, decoded, _, _ => ⟨universalNewlines decoded, none⟩
  | fuel + 1, rest, held, decoded, lastBytes, lastChars =>
    let count := (atHand decoded).length
    let size := nextPiece count lastBytes lastChars
    let piece := rest.take size
    if piece.isEmpty then
      match decodeUtf8 held with
      | .ok _ => ⟨universalNewlines decoded, none⟩
      | .error e => ⟨atHand decoded, some e⟩
    else
      let bytes := held ++ piece
      match decodeUtf8 bytes with
      | .ok cs =>
        let decoded' := decoded ++ cs
        piecesFrom fuel (rest.drop size) [] decoded' piece.length ((atHand decoded').length - count)
      | .error e =>
        let tail := bytes.drop e.position
        if isHeldBack tail e.fault then
          let decoded' := decoded ++ ((decodeUtf8 (bytes.take e.position)).toOption.getD [])
          piecesFrom fuel (rest.drop size) tail decoded' piece.length ((atHand decoded').length - count)
        else ⟨atHand decoded, some e⟩

/-- Decodes a file piece by piece. -/
def decodePieces (bytes : List UInt8) : Piecewise := piecesFrom (bytes.length + 1) bytes [] [] 0 0

end Text
end CodeCensus
