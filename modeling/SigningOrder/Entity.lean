/-
The entities of the ledger and how they are named. Six kinds of entity share
one form of identifier, a shard, a realm and a number, but an identifier
belongs to one kind: `EntityId kind` keeps an account number from being passed
where a file is meant. An `EntityRef` names any entity, with its kind; failures
blame one, and the store is keyed by them in the order given here.
-/

namespace SigningOrder

/-- The kinds of entity, in the order in which references sort. -/
inductive EntityKind where
  | account
  | file
  | contract
  | topic
  | token
  | schedule
  deriving DecidableEq, Repr

/-- The identifier of an entity of one kind. -/
structure EntityId (kind : EntityKind) where
  shard : UInt64
  realm : UInt64
  num : UInt64
  deriving DecidableEq, Repr

abbrev AccountId := EntityId .account
abbrev FileId := EntityId .file
abbrev ContractId := EntityId .contract
abbrev TopicId := EntityId .topic
abbrev TokenId := EntityId .token
abbrev ScheduleId := EntityId .schedule

namespace EntityId

/-- The identifier of a number in shard 0, realm 0. -/
def ofNum {kind : EntityKind} (num : UInt64) : EntityId kind :=
  ⟨0, 0, num⟩

/-- `0.0.0`, which names no entity: an update clears an account with it, and a
fee denominates in the token that is being created. -/
def sentinel {kind : EntityKind} : EntityId kind :=
  ofNum 0

/-- Whether this is the sentinel rather than an entity. -/
def isSentinel {kind : EntityKind} (id : EntityId kind) : Bool :=
  id.shard == 0 && id.realm == 0 && id.num == 0

end EntityId

/-- A reference to an entity of any kind. -/
structure EntityRef where
  kind : EntityKind
  id : EntityId kind
  deriving DecidableEq, Repr

/-- The reference to the entity of an identifier. -/
def EntityId.ref {kind : EntityKind} (id : EntityId kind) : EntityRef :=
  ⟨kind, id⟩

namespace EntityRef

/-- What the order of references compares, first to last: kind, shard, realm,
number. -/
def sortKey (e : EntityRef) : List Nat :=
  [e.kind.ctorIdx, e.id.shard.toNat, e.id.realm.toNat, e.id.num.toNat]

/-- The order of references. -/
def compare (a b : EntityRef) : Ordering :=
  a.sortKey.compareLex Ord.compare b.sortKey

end EntityRef

end SigningOrder
