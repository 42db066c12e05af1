/-
Tagged unions. A value of a union is written as its case and what the case
carries: in bytes the place of the case in the list of cases, in documents an
object with the name of the case as its only entry.
-/
import SigningOrder.Format.Fields

namespace SigningOrder

/-- One case of a union: its name, the format of what it carries, and the two
ways between a payload and a value of the union. -/
structure Case (α : Type) where
  name : String
  Payload : Type
  format : Format Payload
  make : Payload → α
  /-- The payload of a value of this case. -/
  payload? : α → Option Payload

namespace Case

variable {α : Type}

/-- What is encoded, and the number of cases before its own, for the first case
of a value. -/
def encodeFrom : (place : Nat) → List (Case α) → α → Bytes
  | _, [], _ => []
  | place, c :: cs, a =>
    match c.payload? a with
    | some p => Varint.encode place ++ c.format.encode p
    | none => encodeFrom (place + 1) cs a

/-- What is written for the first case of a value. -/
def writeFirst : List (Case α) → α → Document
  | [], _ => .null
  | c :: cs, a =>
    match c.payload? a with
    | some p => .object [(c.name, c.format.write p)]
    | none => writeFirst cs a

/-- The format of a union of cases. -/
def union (cases : List (Case α)) : Format α where
  fits a := ∃ c ∈ cases, ∃ p, c.payload? a = some p ∧ c.format.fits p
  encode := encodeFrom 0 cases
  decode bytes := do
    let (place, rest) ← Varint.decode32 bytes
    match cases[place]? with
    | some c =>
      let (p, rest) ← c.format.decode rest
      return (c.make p, rest)
    | none => throw .rejected
  write := writeFirst cases
  read
    | .object [(name, d)] =>
      match cases.find? fun c => c.name == name with
      | some c => (c.format.read d).map c.make
      | none => .error .malformed
    | _ => .error .malformed

end Case

end SigningOrder
