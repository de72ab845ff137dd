import SinkAudit.Text.Digit

/-!
# UTF-8

Files are read as UTF-8 without exception (`read_text`), and bytes that are none end a command with a
message that names the first of them. Decoding is strict, and the span of bytes at fault is that of the
longest start of a character; `lead` and `DecodeError.message` follow the decoder in this.

- `decode`: the characters of a row of bytes, or the first place where the bytes are no UTF-8.
- `lead`: what a first byte announces: how many bytes follow, and the bounds of the second one, which
  keep out overlong forms, surrogates and numbers that are too large.
- `DecodeError.message`: the text of an error, with the span of bytes at fault.
- `encode`: the bytes of characters.
-/

namespace SinkAudit.Utf8

/-- Why bytes are no UTF-8. -/
inductive Fault where
  | start
  | continuation
  | truncated
  deriving DecidableEq

/-- The first place where bytes are no UTF-8. -/
structure DecodeError where
  fault : Fault
  /-- Where the offending sequence begins. -/
  position : Nat
  /-- How many bytes it takes in. -/
  length : Nat
  first : UInt8
  deriving DecidableEq

/-- The text of the fault. -/
def Fault.message : Fault → String
  | start => "invalid start byte"
  | continuation => "invalid continuation byte"
  | truncated => "unexpected end of data"

/-- The text of the error. -/
def DecodeError.message (e : DecodeError) : String :=
  "'utf-8' codec can't decode "
    ++ (if e.length = 1 then
        "byte 0x" ++ String.ofList (Text.digitsOf 16 2 e.first.toNat) ++ " in position "
          ++ toString e.position
      else
        "bytes in position " ++ toString e.position ++ "-" ++ toString (e.position + e.length - 1))
    ++ ": " ++ e.fault.message

/-- What a first byte announces. -/
structure Lead where
  /-- How many bytes follow. -/
  more : Nat
  /-- The part of the number that the first byte holds. -/
  bits : Nat
  /-- The least second byte. -/
  low : Nat
  /-- The greatest second byte. -/
  high : Nat

/-- What a first byte announces, if it may stand first. -/
def lead (b : Nat) : Option Lead :=
  if b < 0x80 then some ⟨0, b, 0x80, 0xBF⟩
  else if b < 0xC2 then none
  else if b < 0xE0 then some ⟨1, b - 0xC0, 0x80, 0xBF⟩
  else if b < 0xF0 then
    some ⟨2, b - 0xE0, if b = 0xE0 then 0xA0 else 0x80, if b = 0xED then 0x9F else 0xBF⟩
  else if b < 0xF5 then
    some ⟨3, b - 0xF0, if b = 0xF0 then 0x90 else 0x80, if b = 0xF4 then 0x8F else 0xBF⟩
  else none

/-- The bytes that continue a sequence: their number together with the bits so far, or how many of
them were read before the fault. Only the first has bounds of its own. -/
def continuation (bits low high read : Nat) : Nat → List UInt8 → Except (Fault × Nat) Nat
  | 0, _ => .ok bits
  | _ + 1, [] => .error (.truncated, read)
  | more + 1, b :: rest =>
    if low ≤ b.toNat ∧ b.toNat ≤ high then
      continuation (bits * 0x40 + (b.toNat - 0x80)) 0x80 0xBF (read + 1) more rest
    else .error (.continuation, read)

/-- Decode bytes, of which the first stands at `position`; the next `skip` bytes belong to the
character before. -/
def decodeFrom (position skip : Nat) : List UInt8 → Except DecodeError (List Char)
  | [] => .ok []
  | b :: rest =>
    match skip with
    | skip + 1 => decodeFrom (position + 1) skip rest
    | 0 =>
      match lead b.toNat with
      | none => .error ⟨.start, position, 1, b⟩
      | some l =>
        match continuation l.bits l.low l.high 1 l.more rest with
        | .error (fault, read) => .error ⟨fault, position, read, b⟩
        | .ok n =>
          match decodeFrom (position + 1) l.more rest with
          | .ok cs => .ok (Char.ofNat n :: cs)
          | .error e => .error e

/-- The characters of a row of bytes. -/
def decode (bs : List UInt8) : Except DecodeError (List Char) := decodeFrom 0 0 bs

/-- The bytes of characters. -/
def encode (cs : List Char) : List UInt8 := cs.flatMap String.utf8EncodeChar

end SinkAudit.Utf8
