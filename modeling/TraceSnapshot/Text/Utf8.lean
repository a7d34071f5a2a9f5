import TraceSnapshot.Text

/-!
# UTF-8

Files hold bytes; their text is UTF-8 without any change at line ends or at a byte-order
mark. The first sequence that is not UTF-8 decides what is wrong with a file.
-/

namespace TraceSnapshot

abbrev Bytes := List UInt8

namespace Utf8

/-- Every text has an encoding. Only a lone surrogate would have none. -/
def encode (t : Text) : Bytes := t.flatMap String.utf8EncodeChar

/-- What is wrong with a byte sequence. -/
inductive Fault where
  | invalidStart
  | unexpectedEnd
  | invalidContinuation
  deriving DecidableEq, Repr

def Fault.message : Fault → Text
  | .invalidStart => "invalid start byte".toList
  | .unexpectedEnd => "unexpected end of data".toList
  | .invalidContinuation => "invalid continuation byte".toList

/-- A character of which the last `remaining` bytes are still to come. The bounds are those
of its next byte: they rule out overlong forms, surrogates and code points past the last. -/
structure Pending where
  remaining : Nat
  value : Nat
  low : Nat
  high : Nat

/-- What the first byte of a character says about the bytes after it. -/
def lead? (b : Nat) : Option Pending :=
  if b < 0xC2 then none
  else if b < 0xE0 then some ⟨0, b - 0xC0, 0x80, 0xBF⟩
  else if b = 0xE0 then some ⟨1, 0, 0xA0, 0xBF⟩
  else if b = 0xED then some ⟨1, 0xD, 0x80, 0x9F⟩
  else if b < 0xF0 then some ⟨1, b - 0xE0, 0x80, 0xBF⟩
  else if b = 0xF0 then some ⟨2, 0, 0x90, 0xBF⟩
  else if b < 0xF4 then some ⟨2, b - 0xF0, 0x80, 0xBF⟩
  else if b = 0xF4 then some ⟨2, 4, 0x80, 0x8F⟩
  else none

/-- Reads on from the middle of a character, or from between two if there is none. -/
def decodeFrom : Option Pending → Bytes → Except Fault Text
  | none, [] => .ok []
  | some _, [] => .error .unexpectedEnd
  | none, b :: rest =>
    if b.toNat < 0x80 then (decodeFrom none rest).map (Char.ofNat b.toNat :: ·)
    else
      match lead? b.toNat with
      | none => .error .invalidStart
      | some pending => decodeFrom (some pending) rest
  | some ⟨remaining, value, low, high⟩, b :: rest =>
    if low ≤ b.toNat ∧ b.toNat ≤ high then
      let value := value * 64 + (b.toNat - 0x80)
      match remaining with
      | 0 => (decodeFrom none rest).map (Char.ofNat value :: ·)
      | remaining + 1 => decodeFrom (some ⟨remaining, value, 0x80, 0xBF⟩) rest
    else
      .error .invalidContinuation

/-- The text that the bytes encode. -/
def decode (bytes : Bytes) : Except Fault Text := decodeFrom none bytes

end Utf8

end TraceSnapshot
