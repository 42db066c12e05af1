/-
The records that the ledger stores, one type for each kind of entity. Only a
few fields bear on signing (`Record/Meta.lean`); the others are kept so that a
stored record can be shown whole.
-/
import SigningOrder.Body

namespace SigningOrder

/-- A stored account. -/
structure AccountRecord where
  key : Key
  /-- Whether the account must sign transfers that it receives. -/
  receiverSigRequired : Bool
  balance : UInt64
  deleted : Bool
  deriving DecidableEq, Repr

namespace AccountRecord

/-- The fields, in the order in which they are written. -/
def fields : Fields AccountRecord :=
  (Fields.and (.required "key" Key.format) <|
   Fields.and (.starting "receiver_sig_required" .bool false) <|
   Fields.and (.starting "balance" .word64 0) <|
   .starting "deleted" .bool false).as
    (fun (key, receiverSigRequired, balance, deleted) =>
      ⟨key, receiverSigRequired, balance, deleted⟩)
    (fun x => (x.key, x.receiverSigRequired, x.balance, x.deleted))

/-- The written form. -/
def format : Format AccountRecord :=
  fields.record

end AccountRecord

/-- A stored contract. -/
structure ContractRecord where
  /-- The admin key, which may be the legacy marker. -/
  adminKey : Option Key
  receiverSigRequired : Bool
  deleted : Bool
  deriving DecidableEq, Repr

namespace ContractRecord

/-- The fields, in the order in which they are written. -/
def fields : Fields ContractRecord :=
  (Fields.and (.optional "admin_key" Key.format) <|
   Fields.and (.starting "receiver_sig_required" .bool false) <|
   .starting "deleted" .bool false).as
    (fun (adminKey, receiverSigRequired, deleted) =>
      ⟨adminKey, receiverSigRequired, deleted⟩)
    (fun x => (x.adminKey, x.receiverSigRequired, x.deleted))

/-- The written form. -/
def format : Format ContractRecord :=
  fields.record

end ContractRecord

/-- A stored file. -/
structure FileRecord where
  /-- The keys that guard the file; without them it cannot be changed. -/
  wacl : Option KeyList
  contents : Bytes
  deleted : Bool
  deriving DecidableEq, Repr

namespace FileRecord

/-- The fields, in the order in which they are written. -/
def fields : Fields FileRecord :=
  (Fields.and (.optional "wacl" KeyList.format) <|
   Fields.and (.starting "contents" (.list .byte) []) <|
   .starting "deleted" .bool false).as
    (fun (wacl, contents, deleted) => ⟨wacl, contents, deleted⟩)
    (fun x => (x.wacl, x.contents, x.deleted))

/-- The written form. -/
def format : Format FileRecord :=
  fields.record

end FileRecord

/-- A stored topic. -/
structure TopicRecord where
  adminKey : Option Key
  submitKey : Option Key
  autoRenewAccount : Option AccountId
  deleted : Bool
  deriving DecidableEq, Repr

namespace TopicRecord

/-- The fields, in the order in which they are written. -/
def fields : Fields TopicRecord :=
  (Fields.and (.optional "admin_key" Key.format) <|
   Fields.and (.optional "submit_key" Key.format) <|
   Fields.and (.optional "auto_renew_account" EntityId.format) <|
   .starting "deleted" .bool false).as
    (fun (adminKey, submitKey, autoRenewAccount, deleted) =>
      ⟨adminKey, submitKey, autoRenewAccount, deleted⟩)
    (fun x => (x.adminKey, x.submitKey, x.autoRenewAccount, x.deleted))

/-- The written form. -/
def format : Format TopicRecord :=
  fields.record

end TopicRecord

/-- A stored token. -/
structure TokenRecord where
  treasury : AccountId
  symbol : String
  adminKey : Option Key
  kycKey : Option Key
  freezeKey : Option Key
  wipeKey : Option Key
  supplyKey : Option Key
  feeScheduleKey : Option Key
  deleted : Bool
  deriving DecidableEq, Repr

namespace TokenRecord

/-- The fields, in the order in which they are written. -/
def fields : Fields TokenRecord :=
  (Fields.and (.required "treasury" EntityId.format) <|
   Fields.and (.starting "symbol" .text "") <|
   Fields.and (.optional "admin_key" Key.format) <|
   Fields.and (.optional "kyc_key" Key.format) <|
   Fields.and (.optional "freeze_key" Key.format) <|
   Fields.and (.optional "wipe_key" Key.format) <|
   Fields.and (.optional "supply_key" Key.format) <|
   Fields.and (.optional "fee_schedule_key" Key.format) <|
   .starting "deleted" .bool false).as
    (fun (treasury, symbol, adminKey, kycKey, freezeKey, wipeKey, supplyKey,
     feeScheduleKey, deleted) =>
      ⟨treasury, symbol, adminKey, kycKey, freezeKey, wipeKey, supplyKey,
       feeScheduleKey, deleted⟩)
    (fun x => (x.treasury, x.symbol, x.adminKey, x.kycKey, x.freezeKey,
      x.wipeKey, x.supplyKey, x.feeScheduleKey, x.deleted))

/-- The written form. -/
def format : Format TokenRecord :=
  fields.record

end TokenRecord

/-- A stored schedule. -/
structure ScheduleRecord where
  /-- The transaction that the schedule holds. -/
  scheduledBody : Body
  adminKey : Option Key
  /-- Who pays for that transaction, where the schedule says so. -/
  designatedPayer : Option AccountId
  scheduledBy : AccountId
  deleted : Bool
  executed : Bool
  deriving DecidableEq, Repr

namespace ScheduleRecord

/-- The fields, in the order in which they are written. -/
def fields : Fields ScheduleRecord :=
  (Fields.and (.required "scheduled_body" Body.format) <|
   Fields.and (.optional "admin_key" Key.format) <|
   Fields.and (.optional "designated_payer" EntityId.format) <|
   Fields.and (.required "scheduled_by" EntityId.format) <|
   Fields.and (.starting "deleted" .bool false) <|
   .starting "executed" .bool false).as
    (fun (scheduledBody, adminKey, designatedPayer, scheduledBy, deleted,
     executed) =>
      ⟨scheduledBody, adminKey, designatedPayer, scheduledBy, deleted,
       executed⟩)
    (fun x => (x.scheduledBody, x.adminKey, x.designatedPayer, x.scheduledBy,
      x.deleted, x.executed))

/-- The written form. -/
def format : Format ScheduleRecord :=
  fields.record

/-- Whether the schedule still collects signatures. -/
def isPending (x : ScheduleRecord) : Bool :=
  !x.deleted && !x.executed

end ScheduleRecord

/-- The records of each kind of entity. -/
abbrev Record : EntityKind → Type
  | .account => AccountRecord
  | .file => FileRecord
  | .contract => ContractRecord
  | .topic => TopicRecord
  | .token => TokenRecord
  | .schedule => ScheduleRecord

namespace Record

/-- The fields of the records of a kind. -/
def fields : (kind : EntityKind) → Fields (Record kind)
  | .account => AccountRecord.fields
  | .file => FileRecord.fields
  | .contract => ContractRecord.fields
  | .topic => TopicRecord.fields
  | .token => TokenRecord.fields
  | .schedule => ScheduleRecord.fields

/-- The written form of the records of a kind. -/
def format (kind : EntityKind) : Format (Record kind) :=
  (fields kind).record

/-- Whether the entity of a record can be looked up: it is not deleted, and a
schedule has not run. -/
def isLive : (kind : EntityKind) → Record kind → Bool
  | .account, r => !r.deleted
  | .file, r => !r.deleted
  | .contract, r => !r.deleted
  | .topic, r => !r.deleted
  | .token, r => !r.deleted
  | .schedule, r => r.isPending

end Record

end SigningOrder
