/-
Transactions: an operation under the identifier of who pays for it and when.
-/
import SigningOrder.Body
import SigningOrder.Transaction.Id

namespace SigningOrder

/-- A transaction as it is submitted. -/
structure Transaction where
  id : TransactionId
  body : Body
  deriving DecidableEq, Repr

namespace Transaction

/-- The account that pays for a transaction. -/
def payer (t : Transaction) : AccountId :=
  t.id.payer

/-- The fields of a transaction. -/
def fields : Fields Transaction :=
  (Fields.and (.required "id" TransactionId.format) <|
   .required "body" Body.format).as
    (fun (id, body) => ⟨id, body⟩)
    (fun t => (t.id, t.body))

/-- The written form of a transaction. -/
def format : Format Transaction :=
  fields.record

end Transaction

end SigningOrder
