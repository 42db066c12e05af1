/-
Formats. A `Format` says of one type how its values are written as bytes and as
documents and how both are read back; every type that is stored or given to the
program has one, put together from those of its parts. This file has the
structure and the formats of scalars, texts, options, lists and plain
enumerations; records and tagged unions are in the modules beside it.

Reading bytes takes a value from the front and returns the bytes behind it.
`fits` holds of the values that the written form can carry: valid keys, and
collections whose counts fit their fields.
-/
import SigningOrder.Document
import SigningOrder.Format.Varint

namespace SigningOrder

/-- The two written forms of a type. -/
structure Format (α : Type) where
  /-- The values that the written form can carry. -/
  fits : α → Prop
  encode : α → Bytes
  /-- Reads a value from the front of the bytes. -/
  decode : Bytes → Except DecodeError (α × Bytes)
  write : α → Document
  read : Document → Except ReadError α

namespace Format

variable {α β : Type}

/-- Decodes a value and forgets the bytes behind it. -/
def decodeValue (f : Format α) (bytes : Bytes) : Except DecodeError α :=
  (f.decode bytes).map (·.1)

-- =================================================================== scalars

/-- A byte that must be 0 or 1. -/
def decodeFlag (fault : DecodeError) : Bytes → Except DecodeError (Bool × Bytes)
  | [] => .error .endOfInput
  | b :: rest =>
    if b = 0 then .ok (false, rest)
    else if b = 1 then .ok (true, rest)
    else .error fault

/-- A truth value, in one byte. -/
def bool : Format Bool where
  fits _ := True
  encode b := [if b then 1 else 0]
  decode := decodeFlag .badBool
  write b := .bool b
  read
    | .bool b => .ok b
    | _ => .error .malformed

/-- Reads an integer below a bound that is not negative. -/
def readNat (bound : Nat) : Document → Except ReadError Nat
  | .int n => if 0 ≤ n ∧ n < bound then .ok n.toNat else .error .malformed
  | _ => .error .malformed

/-- A byte, as it is. -/
def byte : Format UInt8 where
  fits _ := True
  encode b := [b]
  decode
    | [] => .error .endOfInput
    | b :: rest => .ok (b, rest)
  write b := .int b.toNat
  read d := (readNat UInt8.size d).map UInt8.ofNat

/-- A number below 2^32, of variable length. -/
def word32 : Format UInt32 where
  fits _ := True
  encode n := Varint.encode n.toNat
  decode bytes :=
    (Varint.decode32 bytes).map fun (n, rest) => (UInt32.ofNat n, rest)
  write n := .int n.toNat
  read d := (readNat UInt32.size d).map UInt32.ofNat

/-- A number below 2^64, of variable length. -/
def word64 : Format UInt64 where
  fits _ := True
  encode n := Varint.encode n.toNat
  decode bytes :=
    (Varint.decode64 bytes).map fun (n, rest) => (UInt64.ofNat n, rest)
  write n := .int n.toNat
  read d := (readNat UInt64.size d).map UInt64.ofNat

/-- A signed 64-bit number, of variable length. -/
def int64 : Format Int64 where
  fits _ := True
  encode n := Varint.encode (Zigzag.encode n.toInt)
  decode bytes :=
    (Varint.decode64 bytes).map fun (n, rest) =>
      (Int64.ofInt (Zigzag.decode n), rest)
  write n := .int n.toInt
  read
    | .int n =>
      if Int64.minValue.toInt ≤ n ∧ n ≤ Int64.maxValue.toInt then
        .ok (Int64.ofInt n)
      else .error .malformed
    | _ => .error .malformed

/-- The bytes of a text. -/
def textBytes (s : String) : Bytes :=
  s.toByteArray.data.toList

/-- The text of bytes, if they are one. -/
def textOfBytes? (bytes : Bytes) : Option String :=
  String.fromUTF8? ⟨bytes.toArray⟩

/-- A text: its length in bytes, then the bytes. -/
def text : Format String where
  fits s := (textBytes s).length < UInt64.size
  encode s := Varint.encode (textBytes s).length ++ textBytes s
  decode bytes := do
    let (length, rest) ← Varint.decode64 bytes
    if rest.length < length then throw .endOfInput
    match textOfBytes? (rest.take length) with
    | some s => return (s, rest.drop length)
    | none => throw .badText
  write s := .text s
  read
    | .text s => .ok s
    | _ => .error .malformed

-- =========================================== options, lists and enumerations

/-- A value that may be absent: a byte that says so, and the value. -/
def option (f : Format α) : Format (Option α) where
  fits a := ∀ x, a = some x → f.fits x
  encode
    | none => [0]
    | some a => 1 :: f.encode a
  decode bytes := do
    let (present, rest) ← decodeFlag .badOption bytes
    if present then
      let (a, rest) ← f.decode rest
      return (some a, rest)
    else return (none, rest)
  write
    | none => .null
    | some a => f.write a
  read
    | .null => .ok none
    | d => (f.read d).map some

/-- Decodes a number of values, one after the other. -/
def decodeMany (f : Format α) :
    Nat → Bytes → Except DecodeError (List α × Bytes)
  | 0, bytes => .ok ([], bytes)
  | n + 1, bytes => do
    let (a, bytes) ← f.decode bytes
    let (as, bytes) ← decodeMany f n bytes
    return (a :: as, bytes)

/-- A list: its length, then its values. -/
def list (f : Format α) : Format (List α) where
  fits as := as.length < UInt64.size ∧ ∀ a ∈ as, f.fits a
  encode as := Varint.encode as.length ++ as.flatMap f.encode
  decode bytes := do
    let (length, rest) ← Varint.decode64 bytes
    decodeMany f length rest
  write as := .list (as.map f.write)
  read
    | .list ds | .openList ds => ds.mapM f.read
    | _ => .error .malformed

/-- The values that a checked conversion accepts, in the written form of what
they are converted from. -/
def convert (f : Format α) (check : α → Except ReadError β) (view : β → α)
    (fits : β → Prop) : Format β where
  fits := fits
  encode b := f.encode (view b)
  decode bytes := do
    let (a, rest) ← f.decode bytes
    match check a with
    | .ok b => return (b, rest)
    | .error _ => throw .rejected
  write b := f.write (view b)
  read d := do
    let a ← f.read d
    check a

/-- The place of a value in a list of all values. -/
def indexOf [DecidableEq α] (all : List α) (a : α) : Nat :=
  all.idxOf a

/-- A value of a fixed list: its place in bytes, its name in documents. -/
def enumeration [DecidableEq α] (all : List α) (name : α → String) :
    Format α where
  fits a := a ∈ all
  encode a := Varint.encode (indexOf all a)
  decode bytes := do
    let (i, rest) ← Varint.decode32 bytes
    match all[i]? with
    | some a => return (a, rest)
    | none => throw .rejected
  write a := .text (name a)
  read
    | .text s => named s
    | .object [(s, .null)] => named s
    | _ => .error .malformed
where
  /-- The value of a name. -/
  named (s : String) : Except ReadError α :=
    match all.find? fun a => name a == s with
    | some a => .ok a
    | none => .error .malformed

end Format

end SigningOrder
