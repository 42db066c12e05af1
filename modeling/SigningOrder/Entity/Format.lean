/-
The written forms of identifiers, which are records of three numbers, and of
references, which are unions over the kinds of entity.
-/
import SigningOrder.Entity
import SigningOrder.Format.Union

namespace SigningOrder

namespace EntityId

variable {kind : EntityKind}

/-- The fields of an identifier. -/
def fields : Fields (EntityId kind) :=
  (Fields.and (.required "shard" .word64) <|
   Fields.and (.required "realm" .word64) <|
   .required "num" .word64).as
    (fun (shard, realm, num) => ⟨shard, realm, num⟩)
    (fun id => (id.shard, id.realm, id.num))

/-- The written form of an identifier. -/
def format : Format (EntityId kind) :=
  fields.record

end EntityId

namespace EntityRef

/-- The identifier in a reference of the given kind. -/
def ofKind? (kind : EntityKind) (e : EntityRef) : Option (EntityId kind) :=
  if e.kind = kind then some ⟨e.id.shard, e.id.realm, e.id.num⟩ else none

/-- The case of a kind of entity. -/
def case (name : String) (kind : EntityKind) : Case EntityRef :=
  ⟨name, EntityId kind, EntityId.format, EntityId.ref, ofKind? kind⟩

/-- The cases of a reference. -/
def cases : List (Case EntityRef) :=
  [case "Account" .account, case "File" .file, case "Contract" .contract,
    case "Topic" .topic, case "Token" .token, case "Schedule" .schedule]

/-- The written form of a reference. -/
def format : Format EntityRef :=
  Case.union cases

end EntityRef

end SigningOrder
