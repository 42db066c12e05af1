/-
Transaction identifiers. A transaction is known by its payer and the time from
which it is valid; the transaction that a schedule runs keeps the time of the
operation that led to it, has the payer of the schedule, and is marked as
scheduled.
-/
import SigningOrder.Entity.Format
import SigningOrder.Entity.Text
import SigningOrder.Instant.Format

namespace SigningOrder

/-- The identifier of a transaction. -/
structure TransactionId where
  payer : AccountId
  validStart : Instant
  /-- Whether this is the transaction inside of a schedule. -/
  scheduled : Bool
  deriving DecidableEq, Repr

namespace TransactionId

/-- The identifier of the transaction that a schedule runs for a payer. -/
def asScheduled (id : TransactionId) (payer : AccountId) : TransactionId :=
  ⟨payer, id.validStart, true⟩

/-- The text of an identifier: the payer, the seconds, the nanoseconds in at
least nine digits, and the mark of a scheduled transaction. -/
def text (id : TransactionId) : String :=
  id.payer.text ++ "@" ++ toString id.validStart.seconds ++ "." ++
    String.ofList (Text.padded 9 id.validStart.nanos) ++
    (if id.scheduled then "?scheduled" else "")

/-- The fields of an identifier. -/
def fields : Fields TransactionId :=
  (Fields.and (.required "payer" EntityId.format) <|
   Fields.and (.required "valid_start" Instant.format) <|
   .starting "scheduled" .bool false).as
    (fun (payer, validStart, scheduled) => ⟨payer, validStart, scheduled⟩)
    (fun id => (id.payer, id.validStart, id.scheduled))

/-- The written form of an identifier. -/
def format : Format TransactionId :=
  fields.record

end TransactionId

end SigningOrder
