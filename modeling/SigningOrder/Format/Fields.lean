/-
Records. A record is written as its fields in the order of their declaration:
in bytes one after the other, in documents as an object under their names.
`Fields` describes a run of fields; `Fields.record` makes a format of it, which
also reads a list of the fields in their order, and `Fields.namedRecord` one
that does not. Behind the last field an open list may go on. A record can also
be drafted from the fields that a caller cares to give, the others taking the
values they start with.

An object is read field by field in the order of the names, and the first fault
is the one reported; a missing field is reported only where no given field is
at fault.
-/
import SigningOrder.Format

namespace SigningOrder

/-- What is wrong with one field of an object. -/
inductive FieldFault where
  | missing (name : String)
  | invalid (name : String) (error : ReadError)
  deriving DecidableEq, Repr

/-- Why a draft is no record. -/
inductive DraftError where
  /-- A field has no value to start with and is not given. -/
  | missing (name : String)
  | invalid (error : ReadError)
  deriving DecidableEq, Repr

/-- What a field is where a document leaves it out. -/
inductive Presence (α : Type) where
  | required
  /-- An object may leave the field out for this value; an array may not. -/
  | absentAs (value : α)
  /-- Objects and arrays may leave the field out for this value. -/
  | startsAs (value : α)

namespace Presence

variable {α : Type}

/-- The value of a field that an object leaves out. -/
def inObject : Presence α → Option α
  | required => none
  | absentAs a => some a
  | startsAs a => some a

/-- The value of a field that an array ends before. -/
def inArray : Presence α → Option α
  | required => none
  | absentAs _ => none
  | startsAs a => some a

end Presence

/-- A run of fields of a record, with the values that they hold together. -/
structure Fields (α : Type) where
  fits : α → Prop
  encode : α → Bytes
  decode : Bytes → Except DecodeError (α × Bytes)
  write : α → List (String × Document)
  /-- Reads the fields by name, and lists all faults. -/
  read : List (String × Document) → Except (List FieldFault) α
  /-- Reads the fields by place, and returns the items behind them. -/
  readInOrder : List Document → Except ReadError (α × List Document)
  /-- Reads the fields that are given and starts the others. -/
  draft : List (String × Document) → Except DraftError α

namespace Fields

variable {α β : Type}

/-- One field. The last argument is the value it has in a draft that does not
give it. -/
def field (name : String) (f : Format α) (presence : Presence α)
    (start : Option α) : Fields α where
  fits := f.fits
  encode := f.encode
  decode := f.decode
  write a := [(name, f.write a)]
  read entries :=
    match Document.entry? name entries with
    | some d =>
      match f.read d with
      | .ok a => .ok a
      | .error e => .error [.invalid name e]
    | none =>
      match presence.inObject with
      | some a => .ok a
      | none => .error [.missing name]
  readInOrder
    | d :: ds => (f.read d).map fun a => (a, ds)
    | [] =>
      match presence.inArray with
      | some a => .ok (a, [])
      | none => .error .malformed
  draft entries :=
    match Document.entry? name entries with
    | none | some .null =>
      match start with
      | some a => .ok a
      | none => .error (.missing name)
    | some d =>
      match f.read d with
      | .ok a => .ok a
      | .error e => .error (.invalid e)

/-- A field that must be given. -/
def required (name : String) (f : Format α) : Fields α :=
  field name f .required none

/-- A field that a document must give and a draft may leave at its start. -/
def starting (name : String) (f : Format α) (start : α) : Fields α :=
  field name f .required (some start)

/-- A field that may be absent. -/
def optional (name : String) (f : Format α) : Fields (Option α) :=
  field name f.option (.absentAs none) (some none)

/-- A field that documents and drafts may leave at its start. -/
def defaulted (name : String) (f : Format α) (start : α) : Fields α :=
  field name f (.startsAs start) (some start)

/-- Fields, and further fields behind them. -/
def and (first : Fields α) (second : Fields β) : Fields (α × β) where
  fits v := first.fits v.1 ∧ second.fits v.2
  encode v := first.encode v.1 ++ second.encode v.2
  decode bytes := do
    let (a, bytes) ← first.decode bytes
    let (b, bytes) ← second.decode bytes
    return ((a, b), bytes)
  write v := first.write v.1 ++ second.write v.2
  read entries :=
    match first.read entries, second.read entries with
    | .ok a, .ok b => .ok (a, b)
    | .ok _, .error faults => .error faults
    | .error faults, .ok _ => .error faults
    | .error faults, .error more => .error (faults ++ more)
  readInOrder ds := do
    let (a, ds) ← first.readInOrder ds
    let (b, ds) ← second.readInOrder ds
    return ((a, b), ds)
  draft entries := do
    let a ← first.draft entries
    let b ← second.draft entries
    return (a, b)

/-- The same fields as another type, which holds the same values. -/
def as (fields : Fields α) (make : α → β) (view : β → α) : Fields β where
  fits b := fields.fits (view b)
  encode b := fields.encode (view b)
  decode bytes := do
    let (a, rest) ← fields.decode bytes
    return (make a, rest)
  write b := fields.write (view b)
  read entries := (fields.read entries).map make
  readInOrder ds := do
    let (a, rest) ← fields.readInOrder ds
    return (make a, rest)
  draft entries := (fields.draft entries).map make

/-- Of two faults, the one of the earlier name. -/
def earlier (a b : String × ReadError) : String × ReadError :=
  if b.1 < a.1 then b else a

/-- The fault of the earliest name among the given fields that are at fault. -/
def earliest : List FieldFault → Option (String × ReadError)
  | [] => none
  | .missing _ :: faults => earliest faults
  | .invalid name e :: faults =>
    match earliest faults with
    | none => some (name, e)
    | some other => some (earlier (name, e) other)

/-- The fault that an object with these faults reports. -/
def report (faults : List FieldFault) : ReadError :=
  match earliest faults with
  | some (_, e) => e
  | none => .malformed

/-- Reads a record from the entries of an object. -/
def readObject (fields : Fields α) (entries : List (String × Document)) :
    Except ReadError α :=
  (fields.read entries).mapError report

/-- The format of a record with these fields. -/
def record (fields : Fields α) : Format α where
  fits := fields.fits
  encode := fields.encode
  decode := fields.decode
  write a := .object (fields.write a)
  read
    | .object entries => fields.readObject entries
    | .list items => do
      let (a, rest) ← fields.readInOrder items
      if rest.isEmpty then return a else throw .malformed
    | .openList items => (fields.readInOrder items).map (·.1)
    | _ => .error .malformed

/-- The format of a record whose fields a document always names. -/
def namedRecord (fields : Fields α) : Format α where
  fits := fields.fits
  encode := fields.encode
  decode := fields.decode
  write a := .object (fields.write a)
  read
    | .object entries => fields.readObject entries
    | _ => .error .malformed

/-- Reads a draft, which must be an object. -/
def draftOf (fields : Fields α) : Document → Except DraftError α
  | .object entries => fields.draft entries
  | _ => .error (.invalid .malformed)

end Fields

end SigningOrder
