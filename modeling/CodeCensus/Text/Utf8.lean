/-!
# Strict UTF-8

Bytes to characters and back. Decoding refuses overlong forms, surrogates and code points beyond the
last plane, and names the first offending byte sequence and what is wrong with it.

Contents: `Utf8Fault`, `Utf8Error`, `decodeUtf8`, `universalNewlines`.
-/

namespace CodeCensus
namespace Text

/-- What is wrong with a byte sequence. -/
inductive Utf8Fault where
  | invalidStart
  | invalidContinuation
  | unexpectedEnd
  deriving DecidableEq, Repr

/-- The wording of a fault. -/
def Utf8Fault.message : Utf8Fault → String
  | .invalidStart => "invalid start byte"
  | .invalidContinuation => "invalid continuation byte"
  | .unexpectedEnd => "unexpected end of data"

/-- The first offending sequence: its position, its bytes and its fault. -/
structure Utf8Error where
  position : Nat
  bytes : List UInt8
  fault : Utf8Fault
  deriving DecidableEq, Repr

/-- The number of continuation bytes that a leading byte asks for, the payload bits of the leading
    byte, and the range of the first continuation byte. -/
def leadingByte? (b : UInt8) : Option (Nat × Nat × Nat × Nat) :=
  let n := b.toNat
  if n < 0x80 then some (0, n, 0x80, 0xbf)
  else if 0xc2 ≤ n && n ≤ 0xdf then some (1, n % 0x20, 0x80, 0xbf)
  else if n == 0xe0 then some (2, 0, 0xa0, 0xbf)
  else if n == 0xed then some (2, 0xd, 0x80, 0x9f)
  else if 0xe1 ≤ n && n ≤ 0xef then some (2, n % 0x10, 0x80, 0xbf)
  else if n == 0xf0 then some (3, 0, 0x90, 0xbf)
  else if n == 0xf4 then some (3, 4, 0x80, 0x8f)
  else if 0xf1 ≤ n && n ≤ 0xf3 then some (3, n % 0x8, 0x80, 0xbf)
  else none

/-- Reads `count` continuation bytes, the first of them within `low` to `high`. Gives the code point
    and the rest, or the fault and the bytes that were still in order. -/
def continuation (low high : Nat) (seen : List UInt8) (code : Nat) :
    Nat → List UInt8 → Except (Utf8Fault × List UInt8) (Nat × List UInt8)
  | 0, rest => .ok (code, rest)
  | _ + 1, [] => .error (.unexpectedEnd, seen.reverse)
  | count + 1, b :: rest =>
    if low ≤ b.toNat && b.toNat ≤ high then
      continuation 0x80 0xbf (b :: seen) (code * 0x40 + b.toNat % 0x40) count rest
    else .error (.invalidContinuation, seen.reverse)

/-- One character from the front of the bytes that start with `b`. -/
def decodeChar (b : UInt8) (rest : List UInt8) :
    Except (Utf8Fault × List UInt8) (Nat × List UInt8) :=
  match leadingByte? b with
  | none => .error (.invalidStart, [b])
  | some (count, payload, low, high) => continuation low high [b] payload count rest

/-- What `continuation` leaves is no longer than what it was given. -/
theorem continuation_length_le {low high : Nat} {seen : List UInt8} {code count : Nat}
    {bytes : List UInt8} {n : Nat} {rest : List UInt8}
    (h : continuation low high seen code count bytes = .ok (n, rest)) :
    rest.length ≤ bytes.length := by
  induction count generalizing low high seen code bytes with
  | zero =>
    simp only [continuation, Except.ok.injEq, Prod.mk.injEq] at h
    exact Nat.le_of_eq (by rw [h.2])
  | succ count ih =>
    cases bytes with
    | nil => simp [continuation] at h
    | cons b bytes =>
      simp only [continuation] at h
      split at h
      · exact Nat.le_succ_of_le (ih h)
      · simp at h

/-- Decoding one character leaves no more bytes than follow its first one. -/
theorem decodeChar_length_le {b : UInt8} {bytes : List UInt8} {n : Nat} {rest : List UInt8}
    (h : decodeChar b bytes = .ok (n, rest)) : rest.length ≤ bytes.length := by
  unfold decodeChar at h
  split at h
  · simp at h
  · exact continuation_length_le h

/-- Decodes the last bytes of a sequence of `total` bytes; `done` holds the characters before them
    reversed. -/
def decodeFrom (total : Nat) (done : List Char) (bytes : List UInt8) :
    Except Utf8Error (List Char) :=
  match bytes with
  | [] => .ok done.reverse
  | b :: rest =>
    match h : decodeChar b rest with
    | .error (fault, seen) => .error ⟨total - (rest.length + 1), seen, fault⟩
    | .ok (code, left) =>
      have := decodeChar_length_le h
      decodeFrom total (Char.ofNat code :: done) left
termination_by bytes.length

/-- The characters of a byte sequence, or its first offending sequence. -/
def decodeUtf8 (bytes : List UInt8) : Except Utf8Error (List Char) := decodeFrom bytes.length [] bytes

/-- Carriage returns, alone or before a line feed, become line feeds; `done` holds the finished part
    reversed. -/
def newlinesFrom (done : List Char) : List Char → List Char
  | [] => done.reverse
  | '\r' :: '\n' :: rest => newlinesFrom ('\n' :: done) rest
  | '\r' :: rest => newlinesFrom ('\n' :: done) rest
  | c :: rest => newlinesFrom (c :: done) rest

/-- Every line ending becomes one line feed. -/
def universalNewlines (cs : List Char) : List Char := newlinesFrom [] cs

end Text
end CodeCensus
