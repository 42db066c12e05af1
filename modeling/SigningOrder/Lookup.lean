/-
Looking up entities. A `Lookup` is whatever answers, for an identifier of any
kind, what bears on signing of the entity, or why it cannot: the entity is
absent or unusable, or the look-up itself went wrong. The store answers from
its records; a lookup may also be put together from one function for each kind.
-/
import SigningOrder.Failure
import SigningOrder.Record.Meta

namespace SigningOrder

/-- Why a lookup gives no answer. -/
inductive LookupError where
  /-- The entity is absent, or not usable. -/
  | failure (reason : FailureReason) (entity : EntityRef)
  /-- The lookup itself went wrong. -/
  | backend (entity : EntityRef) (message : String)
  deriving DecidableEq, Repr

namespace LookupError

/-- The entity that was looked up. -/
def entity : LookupError → EntityRef
  | failure _ entity => entity
  | backend entity _ => entity

/-- The reason of a failure; a lookup that went wrong has none. -/
def reason? : LookupError → Option FailureReason
  | failure reason _ => some reason
  | backend _ _ => none

/-- The wording of a lookup error. -/
def message : LookupError → String
  | failure reason entity => reason.text ++ " for " ++ entity.text
  | backend entity fault => "Lookup of " ++ entity.text ++ " failed: " ++ fault

/-- The absence of an entity, for the reason of its kind. -/
def absent {kind : EntityKind} (id : EntityId kind) : LookupError :=
  failure kind.absence id.ref

end LookupError

/-- What answers for the entities of every kind. -/
abbrev Lookup : Type :=
  (kind : EntityKind) → EntityId kind → Except LookupError (Meta kind)

namespace Lookup

/-- The lookup in which every entity is absent. -/
def empty : Lookup :=
  fun _ id => .error (.absent id)

/-- A lookup with another function for one kind. -/
def withKind (lookup : Lookup) (kind : EntityKind)
    (answer : EntityId kind → Except LookupError (Meta kind)) : Lookup :=
  fun other =>
    if h : kind = other then h ▸ answer else lookup other

end Lookup

end SigningOrder
