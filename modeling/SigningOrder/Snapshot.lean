/-
The store. A `Snapshot` holds the record of every entity as bytes, under the
reference of the entity and in the order of references, with the number of the
publication it belongs to; it answers as a lookup by decoding. A `Builder`
collects the records of the next snapshot. What may be done to a builder is a
`Change`; a list of changes stops at the first that fails.
-/
import SigningOrder.Lookup

namespace SigningOrder

-- ================================================= tables of encoded records

/-- Encoded records in the order of their references. -/
abbrev RecordTable := List (EntityRef × Bytes)

namespace RecordTable

/-- The record of an entity. -/
def find? (e : EntityRef) (table : RecordTable) : Option Bytes :=
  (List.find? (fun entry => entry.1 = e) table).map (·.2)

/-- Puts a record at the place of its entity, for the record that was there. -/
def insert (e : EntityRef) (bytes : Bytes) : RecordTable → RecordTable
  | [] => [(e, bytes)]
  | (f, other) :: rest =>
    match e.compare f with
    | .lt => (e, bytes) :: (f, other) :: rest
    | .eq => (e, bytes) :: rest
    | .gt => (f, other) :: insert e bytes rest

/-- Drops the record of an entity. -/
def erase (e : EntityRef) (table : RecordTable) : RecordTable :=
  List.filter (fun entry => entry.1 ≠ e) table

end RecordTable

-- ================================================================= snapshots

/-- All records at one point of publication. -/
structure Snapshot where
  records : RecordTable
  /-- The number of the publication; the empty snapshot at the start has 0. -/
  number : UInt64
  deriving DecidableEq, Repr

namespace Snapshot

/-- The snapshot without records, before any publication. -/
def empty : Snapshot :=
  ⟨[], 0⟩

/-- The number of the publication, as a count. -/
def sequence (s : Snapshot) : Nat :=
  s.number.toNat

/-- The number of records, those of deleted entities included. -/
def size (s : Snapshot) : Nat :=
  s.records.length

/-- Whether there is a record of an entity. -/
def contains (s : Snapshot) (e : EntityRef) : Bool :=
  (s.records.find? e).isSome

/-- The record of an entity; bytes that are none are a fault of the store. -/
def read (s : Snapshot) (kind : EntityKind) (id : EntityId kind) :
    Except LookupError (Record kind) :=
  match s.records.find? id.ref with
  | none => .error (.absent id)
  | some bytes =>
    match (Record.format kind).decodeValue bytes with
    | .ok r => .ok r
    | .error e => .error (.backend id.ref e.message)

/-- What a snapshot answers: an entity whose record is not live is absent. -/
def lookup (s : Snapshot) : Lookup :=
  fun kind id => do
    let r ← s.read kind id
    if r.isLive kind then return r.signingMeta kind else throw (.absent id)

end Snapshot

-- ================================================================== builders

/-- The records of a snapshot to come. -/
structure Builder where
  records : RecordTable
  number : UInt64
  deriving DecidableEq, Repr

namespace Builder

/-- A builder without records, for a snapshot at the start. -/
def empty : Builder :=
  ⟨[], 0⟩

/-- A builder with the records of a snapshot, for the one that follows it. The
number behind the highest of 64 bits is 0 again. -/
def ofSnapshot (s : Snapshot) : Builder :=
  ⟨s.records, s.number + 1⟩

/-- The snapshot of the records collected. -/
def build (b : Builder) : Snapshot :=
  ⟨b.records, b.number⟩

/-- Stores bytes for an entity, whatever they are. -/
def putEncoded (b : Builder) (e : EntityRef) (bytes : Bytes) : Builder :=
  ⟨b.records.insert e bytes, b.number⟩

/-- Stores the record of an entity. -/
def put {kind : EntityKind} (b : Builder) (id : EntityId kind)
    (r : Record kind) : Builder :=
  b.putEncoded id.ref ((Record.format kind).encode r)

/-- Drops the record of an entity. -/
def remove (b : Builder) (e : EntityRef) : Builder :=
  ⟨b.records.erase e, b.number⟩

/-- Whether there is a record of an entity. -/
def contains (b : Builder) (e : EntityRef) : Bool :=
  (b.records.find? e).isSome

end Builder

-- =================================================================== changes

/-- One thing to do to a builder. -/
inductive Change where
  | put (kind : EntityKind) (id : EntityId kind) (record : Record kind)
  /-- Stores bytes as they are. -/
  | putEncoded (entity : EntityRef) (bytes : Bytes)
  /-- Stores the record that bytes write, and fails where they write none. -/
  | replay (entity : EntityRef) (bytes : Bytes)
  | remove (entity : EntityRef)

namespace Change

/-- Makes a change. -/
def apply (b : Builder) : Change → Except DecodeError Builder
  | put _ id record => .ok (b.put id record)
  | putEncoded e bytes => .ok (b.putEncoded e bytes)
  | replay e bytes => do
    let record ← (Record.format e.kind).decodeValue bytes
    return b.put e.id record
  | remove e => .ok (b.remove e)

/-- Makes changes in turn, up to the first that fails. -/
def applyAll (b : Builder) (changes : List Change) :
    Except DecodeError Builder :=
  changes.foldlM apply b

/-- For each removal that is made, whether there was a record to drop. -/
def removals (b : Builder) : List Change → List Bool
  | [] => []
  | c :: cs =>
    match apply b c with
    | .error _ => []
    | .ok next =>
      match c with
      | remove e => b.contains e :: removals next cs
      | _ => removals next cs

end Change

end SigningOrder
