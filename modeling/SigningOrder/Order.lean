/-
Signing orders: the keys that must sign, in order. Each key signs either for
the transaction that is submitted or for the one that a schedule holds, and has
the rule by which signatures satisfy it. Of keys that sign for the same
transaction and decode to the same keys, the order keeps the first.
-/
import SigningOrder.Activation

namespace SigningOrder

/-- Which transaction a key signs for. -/
inductive Scope where
  /-- The transaction that is submitted. -/
  | outer
  /-- The transaction that a schedule holds. -/
  | scheduled
  deriving DecidableEq, Repr

/-- A key that must sign, and the rule by which it is satisfied. -/
structure RequiredKey where
  key : Key
  activation : Activation
  deriving DecidableEq, Repr

/-- A key that must sign for one transaction. -/
structure OrderedKey where
  key : Key
  scope : Scope
  activation : Activation
  deriving DecidableEq, Repr

namespace RequiredKey

/-- A key under the usual rule. -/
def ofKey (k : Key) : RequiredKey :=
  ⟨k, .standard⟩

/-- The keys of a file under a rule. -/
def ofWacl (wacl : KeyList) (activation : Activation) : RequiredKey :=
  ⟨.ofKeyList wacl, activation⟩

end RequiredKey

namespace OrderedKey

/-- A required key as one that signs for a transaction. -/
def inScope (scope : Scope) (r : RequiredKey) : OrderedKey :=
  ⟨r.key, scope, r.activation⟩

/-- A key of the submitted transaction, under the usual rule. -/
def outer (k : Key) : OrderedKey :=
  ⟨k, .outer, .standard⟩

/-- Whether a key signs for a transaction in a schedule. -/
def isScheduled (o : OrderedKey) : Bool :=
  o.scope == .scheduled

/-- Whether a key is satisfied by the leaves that have signed. -/
def isActive (o : OrderedKey) (signed : LeafKey → Bool) : Bool :=
  o.key.isActive o.activation signed

/-- What makes two keys of an order the same: the transaction, and what they
decode to. -/
def identity (o : OrderedKey) : Scope × Key :=
  (o.scope, o.key.canonical)

/-- Drops the keys that are the same as one seen before. -/
def dedupFrom (seen : List (Scope × Key)) : List OrderedKey → List OrderedKey
  | [] => []
  | o :: rest =>
    if o.identity ∈ seen then dedupFrom seen rest
    else o :: dedupFrom (o.identity :: seen) rest

/-- The first of each of the keys that are the same. -/
def dedup (keys : List OrderedKey) : List OrderedKey :=
  dedupFrom [] keys

end OrderedKey

end SigningOrder
