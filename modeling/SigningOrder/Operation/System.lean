/-
Operations of the administration of the ledger.
-/
import SigningOrder.Entity.Format
import SigningOrder.Instant.Format
import SigningOrder.Key.Format

namespace SigningOrder

/-- What an administrative deletion is of. -/
inductive SystemTarget where
  | file (id : FileId)
  | contract (id : ContractId)
  deriving DecidableEq, Repr

namespace SystemTarget

/-- The cases of a target. -/
def cases : List (Case SystemTarget) :=
  [ ⟨"File", FileId, EntityId.format, .file,
      fun | .file id => some id | _ => none⟩,
    ⟨"Contract", ContractId, EntityId.format, .contract,
      fun | .contract id => some id | _ => none⟩ ]

/-- The written form. -/
def format : Format SystemTarget :=
  Case.union cases

end SystemTarget

/-- Deletes a file or a contract. -/
structure SystemDelete where
  target : SystemTarget
  expiration : Option Instant
  deriving DecidableEq, Repr

namespace SystemDelete

/-- The fields, in the order in which they are written. -/
def fields : Fields SystemDelete :=
  (Fields.and (.required "target" SystemTarget.format) <|
   .optional "expiration" Instant.format).as
    (fun (target, expiration) => ⟨target, expiration⟩)
    (fun x => (x.target, x.expiration))

/-- The written form. -/
def format : Format SystemDelete :=
  fields.record

end SystemDelete

/-- Takes back an administrative deletion. -/
structure SystemUndelete where
  target : SystemTarget
  deriving DecidableEq, Repr

namespace SystemUndelete

/-- The fields, in the order in which they are written. -/
def fields : Fields SystemUndelete :=
  (Fields.required "target" SystemTarget.format).as (fun a => ⟨a⟩)
    (fun x => x.target)

/-- The written form. -/
def format : Format SystemUndelete :=
  fields.record

end SystemUndelete

/-- Stops the network for maintenance. -/
structure Freeze where
  start : Option Instant
  updateFile : Option FileId
  deriving DecidableEq, Repr

namespace Freeze

/-- The fields, in the order in which they are written. -/
def fields : Fields Freeze :=
  (Fields.and (.optional "start" Instant.format) <|
   .optional "update_file" EntityId.format).as
    (fun (start, updateFile) => ⟨start, updateFile⟩)
    (fun x => (x.start, x.updateFile))

/-- The written form. -/
def format : Format Freeze :=
  fields.record

end Freeze

end SigningOrder
