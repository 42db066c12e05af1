/-
Operations on schedules, which hold a transaction until its keys have signed.
The transaction that a new schedule holds is part of the body that creates it;
the rest of that body is here.
-/
import SigningOrder.Entity.Format
import SigningOrder.Instant.Format
import SigningOrder.Key.Format

namespace SigningOrder

/-- What creates a schedule, apart from the transaction that it holds. -/
structure ScheduleTerms where
  /-- The key that may delete the schedule. -/
  adminKey : Option Key
  /-- Who pays for the transaction; without one, who submits it. -/
  payer : Option AccountId
  memo : String
  deriving DecidableEq, Repr

namespace ScheduleTerms

/-- The fields, in the order in which they are written. -/
def fields : Fields ScheduleTerms :=
  (Fields.and (.optional "admin_key" Key.format) <|
   Fields.and (.optional "payer" EntityId.format) <|
   .starting "memo" .text "").as
    (fun (adminKey, payer, memo) => ⟨adminKey, payer, memo⟩)
    (fun x => (x.adminKey, x.payer, x.memo))

end ScheduleTerms

/-- Adds signatures to a schedule. -/
structure ScheduleSign where
  schedule : ScheduleId
  deriving DecidableEq, Repr

namespace ScheduleSign

/-- The fields, in the order in which they are written. -/
def fields : Fields ScheduleSign :=
  (Fields.required "schedule" EntityId.format).as (fun a => ⟨a⟩)
    (fun x => x.schedule)

/-- The written form. -/
def format : Format ScheduleSign :=
  fields.record

end ScheduleSign

/-- Deletes a schedule. -/
structure ScheduleDelete where
  schedule : ScheduleId
  deriving DecidableEq, Repr

namespace ScheduleDelete

/-- The fields, in the order in which they are written. -/
def fields : Fields ScheduleDelete :=
  (Fields.required "schedule" EntityId.format).as (fun a => ⟨a⟩)
    (fun x => x.schedule)

/-- The written form. -/
def format : Format ScheduleDelete :=
  fields.record

end ScheduleDelete

end SigningOrder
