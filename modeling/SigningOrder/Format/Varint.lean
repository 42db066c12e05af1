/-
Numbers of variable length: seven bits a byte, lowest first, with the top bit
of each byte saying that more follow. A number has one shortest form, which is
written; longer forms are read too, up to the number of bytes that the widest
number of a width needs.
-/
import SigningOrder.Bytes

namespace SigningOrder

/-- Why bytes are not the encoding of a value. -/
inductive DecodeError where
  /-- The bytes end before the value does. -/
  | endOfInput
  /-- A number of variable length goes on for too long. -/
  | unterminated
  | badBool
  | badOption
  | badText
  /-- The bytes have the form of the type, and no value of the type is written
  so. -/
  | rejected
  deriving DecidableEq, Repr

namespace DecodeError

/-- The cause that a decoding error names. -/
def cause : DecodeError → String
  | endOfInput => "Hit the end of buffer, expected more data"
  | unterminated =>
    "Found a varint that didn't terminate. Is the usize too big for this platform?"
  | badBool => "Found a bool that wasn't 0 or 1"
  | badOption => "Found an Option discriminant that wasn't 0 or 1"
  | badText => "Tried to parse invalid utf-8"
  | rejected => "Serde Deserialization Error"

/-- The wording of a decoding error. -/
def message (e : DecodeError) : String :=
  "Decoding failed: " ++ e.cause

end DecodeError

namespace Varint

/-- The shortest form of a number. -/
def encode (n : Nat) : Bytes :=
  if n < 128 then [UInt8.ofNat n]
  else UInt8.ofNat (n % 128 + 128) :: encode (n / 128)

/-- Reads a number of at most `more + 1` bytes, the last of which is at most
`last`. -/
def decode (last : Nat) :
    (more : Nat) → Bytes → Except DecodeError (Nat × Bytes)
  | _, [] => .error .endOfInput
  | 0, b :: rest =>
    if b.toNat < 128 ∧ b.toNat ≤ last then .ok (b.toNat, rest)
    else .error .unterminated
  | more + 1, b :: rest =>
    if b.toNat < 128 then .ok (b.toNat, rest)
    else do
      let (n, rest) ← decode last more rest
      return (b.toNat - 128 + 128 * n, rest)

/-- Reads a number below 2^64: at most ten bytes. -/
def decode64 : Bytes → Except DecodeError (Nat × Bytes) :=
  decode 1 9

/-- Reads a number below 2^32: at most five bytes. -/
def decode32 : Bytes → Except DecodeError (Nat × Bytes) :=
  decode 15 4

end Varint

namespace Zigzag

/-- Signed numbers in the order 0, -1, 1, -2, 2 and so on. -/
def encode (n : Int) : Nat :=
  if n < 0 then 2 * (-n - 1).toNat + 1 else 2 * n.toNat

/-- The signed number at a place of that order. -/
def decode (n : Nat) : Int :=
  if n % 2 = 0 then (n / 2 : Nat) else -((n / 2 : Nat) : Int) - 1

end Zigzag

end SigningOrder
