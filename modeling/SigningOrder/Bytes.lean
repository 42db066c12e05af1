/-
Byte strings, their hexadecimal text, and big-endian words. Keys print their
first bytes in hexadecimal, and a contract's identifier is packed into a key as
three words.
-/

namespace SigningOrder

/-- A byte string, first byte first. -/
abbrev Bytes := List UInt8

namespace Hex

/-- The two digits of a byte, high half first. -/
def ofByte (b : UInt8) : List Char :=
  [Nat.digitChar (b.toNat / 16), Nat.digitChar (b.toNat % 16)]

/-- Two lowercase digits for each byte. -/
def encode (bytes : Bytes) : String :=
  String.ofList (bytes.flatMap ofByte)

/-- The value of one hexadecimal digit, in either case. -/
def digit? (c : Char) : Option Nat :=
  if '0' ≤ c ∧ c ≤ '9' then some (c.toNat - '0'.toNat)
  else if 'a' ≤ c ∧ c ≤ 'f' then some (c.toNat - 'a'.toNat + 10)
  else if 'A' ≤ c ∧ c ≤ 'F' then some (c.toNat - 'A'.toNat + 10)
  else none

/-- Reads pairs of digits; an odd digit or a foreign character is refused. -/
def decodeChars : List Char → Option Bytes
  | [] => some []
  | [_] => none
  | high :: low :: rest => do
    let h ← digit? high
    let l ← digit? low
    let bytes ← decodeChars rest
    return UInt8.ofNat (16 * h + l) :: bytes

/-- Reads a hexadecimal text. -/
def decode? (text : String) : Option Bytes :=
  decodeChars text.toList

end Hex

namespace BigEndian

/-- The low `width` bytes of a number, highest first. -/
def encode : (width : Nat) → Nat → Bytes
  | 0, _ => []
  | width + 1, n => encode width (n / 256) ++ [UInt8.ofNat n]

/-- The number that bytes write, highest first. -/
def decode (bytes : Bytes) : Nat :=
  bytes.foldl (fun n b => 256 * n + b.toNat) 0

/-- The eight bytes of a word. -/
def ofWord (w : UInt64) : Bytes :=
  encode 8 w.toNat

/-- The word that eight bytes write. -/
def toWord (bytes : Bytes) : UInt64 :=
  UInt64.ofNat (decode bytes)

end BigEndian

end SigningOrder
