/-
What resolution works with: the lookup it consults, the waivers it honours, and
the failures it stops with. A lookup that says that an entity is absent, for
the reason of its kind, gives the failure of the role that the entity plays;
whatever else a lookup says is a general failure. `Direct.lean` names the keys
of every operation by these, and `Nested.lean` those of a transaction in a
schedule.
-/
import SigningOrder.Lookup
import SigningOrder.Order
import SigningOrder.Waivers

namespace SigningOrder

/-- What resolution consults. -/
structure Resolver where
  lookup : Lookup
  waivers : Waivers

/-- A resolution that stopped short of the keys. -/
structure Unresolved where
  reason : FailureReason
  /-- The entity to blame, where there is one. -/
  entity : Option EntityRef
  deriving DecidableEq, Repr

namespace Unresolved

/-- The failure of a lookup whose absence is reported for a role. -/
def ofLookup (expected role : FailureReason) : LookupError → Unresolved
  | .failure reason e =>
    if reason = expected then ⟨role, some e⟩ else ⟨.generalError, some e⟩
  | .backend e _ => ⟨.generalError, some e⟩

end Unresolved

namespace Resolver

/-- Looks up an entity that plays a role, whose absence has a reason of its
own. -/
def findFor (r : Resolver) (role : FailureReason) (kind : EntityKind)
    (id : EntityId kind) : Except Unresolved (Meta kind) :=
  match r.lookup kind id with
  | .ok m => .ok m
  | .error e => .error (.ofLookup kind.absence role e)

/-- Looks up an entity whose absence has the reason of its kind. -/
def find (r : Resolver) (kind : EntityKind) (id : EntityId kind) :
    Except Unresolved (Meta kind) :=
  r.findFor kind.absence kind id

/-- The key of an account that plays a role. -/
def accountKey (r : Resolver) (role : FailureReason) (id : AccountId) :
    Except Unresolved (List RequiredKey) := do
  let m ← r.findFor role .account id
  return [.ofKey m.key]

/-- The key of an account that must sign what it receives, and no key of
another. -/
def receiverKey (r : Resolver) (id : AccountId) :
    Except Unresolved (List RequiredKey) := do
  let m ← r.find .account id
  return if m.receiverSigRequired then [.ofKey m.key] else []

/-- The key that may be there. -/
def optionalKey (key : Option Key) : List RequiredKey :=
  (key.map .ofKey).toList

/-- What is named for a value that may be there. -/
def whenSome {α : Type} (value : Option α)
    (keys : α → Except Unresolved (List RequiredKey)) :
    Except Unresolved (List RequiredKey) :=
  match value with
  | some a => keys a
  | none => .ok []

/-- What is named for each of several values, in order. -/
def forEach {α : Type} (keys : α → Except Unresolved (List RequiredKey)) :
    List α → Except Unresolved (List RequiredKey)
  | [] => .ok []
  | a :: as => do
    let first ← keys a
    let rest ← forEach keys as
    return first ++ rest

end Resolver

end SigningOrder
