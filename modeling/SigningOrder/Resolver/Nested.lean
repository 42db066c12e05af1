/-
The keys of the transactions inside of schedules. An operation that creates or
signs a schedule requires, besides its own keys, those of the transaction that
the schedule holds, resolved as if the payer of the schedule had submitted it.
That transaction is no operation on a schedule, so this happens once.
-/
import SigningOrder.Resolver.Direct

namespace SigningOrder

namespace Resolver

/-- What the failure of the transaction in a schedule is for the operation on
the schedule: a general failure stays, and any other says that the keys cannot
be named. -/
def asScheduledFailure (u : Unresolved) : Unresolved :=
  if u.reason.isGeneral then u else ⟨.unresolvableRequiredSigners, u.entity⟩

/-- The keys of the transaction that a schedule runs for a payer. -/
def scheduledKeys (r : Resolver) (id : TransactionId) (payer : AccountId)
    (body : Body) : Except Unresolved (List OrderedKey) :=
  if body.isSchedulable then
    match r.directKeys ⟨id.asScheduled payer, body⟩ with
    | .ok keys => .ok (keys.map (.inScope .scheduled))
    | .error u => .error (asScheduledFailure u)
  else .error ⟨.unschedulableTransaction, none⟩

/-- The keys that creating a schedule requires: its own, and those of the
transaction. -/
def scheduleCreate (r : Resolver) (id : TransactionId) (scope : Scope)
    (scheduled : Body) (terms : ScheduleTerms) :
    Except Unresolved (List OrderedKey) := do
  let designated ← whenSome terms.payer (r.accountKey .missingAccount)
  let inner ← r.scheduledKeys id (terms.payer.getD id.payer) scheduled
  return (optionalKey terms.adminKey ++ designated).map (.inScope scope)
    ++ inner

/-- The keys that signing a schedule requires: that of its payer, where it
names one, and those of the transaction. -/
def scheduleSign (r : Resolver) (id : TransactionId) (op : ScheduleSign) :
    Except Unresolved (List OrderedKey) := do
  let m ← r.find .schedule op.schedule
  let designated ← whenSome m.designatedPayer (r.accountKey .missingAccount)
  let inner ←
    r.scheduledKeys id (m.designatedPayer.getD id.payer) m.scheduledBody
  return designated.map (.inScope .scheduled) ++ inner

end Resolver

end SigningOrder
