/-
What resolution needs to know of an entity: of each record the few fields that
bear on signing.
-/
import SigningOrder.Record

namespace SigningOrder

/-- What bears on signing of an account. -/
structure AccountMeta where
  key : Key
  /-- Whether the account must sign transfers that it receives. -/
  receiverSigRequired : Bool
  deriving DecidableEq, Repr

/-- What bears on signing of a file. -/
structure FileMeta where
  wacl : Option KeyList
  deriving DecidableEq, Repr

/-- What bears on signing of a contract. -/
structure ContractMeta where
  key : Option Key
  /-- Whether the contract must sign transfers that it receives. -/
  receiverSigRequired : Bool
  deriving DecidableEq, Repr

/-- What bears on signing of a topic. -/
structure TopicMeta where
  adminKey : Option Key
  submitKey : Option Key
  deriving DecidableEq, Repr

/-- What bears on signing of a token. -/
structure TokenMeta where
  treasury : AccountId
  adminKey : Option Key
  kycKey : Option Key
  freezeKey : Option Key
  wipeKey : Option Key
  supplyKey : Option Key
  feeScheduleKey : Option Key
  deriving DecidableEq, Repr

/-- What bears on signing of a schedule. -/
structure ScheduleMeta where
  adminKey : Option Key
  designatedPayer : Option AccountId
  scheduledBody : Body
  deriving DecidableEq, Repr

/-- A key that can sign: not the legacy marker, which names no key. -/
def Key.usable (key : Option Key) : Option Key :=
  key.filter fun k => !k.isDeprecated

/-- The admin key of a contract, where it has one that can sign. -/
def ContractMeta.adminKey (m : ContractMeta) : Option Key :=
  Key.usable m.key

/-- Whether a contract has no admin key that can sign. -/
def ContractMeta.isImmutable (m : ContractMeta) : Bool :=
  m.adminKey.isNone

/-- Whether a file has no keys that could guard a change. -/
def FileMeta.isImmutable (m : FileMeta) : Bool :=
  m.wacl.isNone

/-- What bears on signing, for each kind of entity. -/
abbrev Meta : EntityKind → Type
  | .account => AccountMeta
  | .file => FileMeta
  | .contract => ContractMeta
  | .topic => TopicMeta
  | .token => TokenMeta
  | .schedule => ScheduleMeta

/-- What bears on signing of a record. -/
def Record.signingMeta : (kind : EntityKind) → Record kind → Meta kind
  | .account, r => ⟨r.key, r.receiverSigRequired⟩
  | .file, r => ⟨r.wacl⟩
  | .contract, r => ⟨r.adminKey, r.receiverSigRequired⟩
  | .topic, r => ⟨r.adminKey, r.submitKey⟩
  | .token, r =>
    ⟨r.treasury, r.adminKey, r.kycKey, r.freezeKey, r.wipeKey, r.supplyKey,
      r.feeScheduleKey⟩
  | .schedule, r => ⟨r.adminKey, r.designatedPayer, r.scheduledBody⟩

end SigningOrder
