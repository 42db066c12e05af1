/-
A sample ledger, with one entity for each situation that bears on signing:
receivers that must sign and others, files and contracts that cannot be
changed, tokens with and without keys, and schedules in every state. The key of
an entity has its label. The configuration of the sample waives one payer.
-/
import SigningOrder.Sample.Label
import SigningOrder.Ledger
import SigningOrder.Config
import SigningOrder.Transaction

namespace SigningOrder

namespace Sample

-- ============================================================== transactions

/-- The time from which the transactions of the sample are valid. -/
def validStart : Instant :=
  ⟨1600000000, 0⟩

/-- The identifier of a transaction of a payer. -/
def txnId (payer : AccountId) : TransactionId :=
  ⟨payer, validStart, false⟩

/-- A transaction of a payer. -/
def txn (payer : AccountId) (body : Body) : Transaction :=
  ⟨txnId payer, body⟩

/-- The transaction that a schedule runs for a payer. -/
def scheduledTxn (payer : AccountId) (body : Body) : Transaction :=
  ⟨(txnId payer).asScheduled payer, body⟩

-- =================================================================== records

/-- The key of an account, on a ledger where it is its number. -/
def keyOf (id : AccountId) : Key :=
  .leaf (.ed25519 [id.num.toUInt8])

/-- A ledger of nothing but accounts. Every account is there with its key, and
all of them must sign what they receive, or none. -/
def everyAccount (receiverSigRequired : Bool) : Lookup :=
  Lookup.empty.withKind .account fun id => .ok ⟨keyOf id, receiverSigRequired⟩

/-- An account with the key of a label. -/
def account (num : UInt64) (label : String) : Change :=
  .put .account (.ofNum num) ⟨key label, false, 10000, false⟩

/-- An account that must sign what it receives. -/
def signingReceiver (num : UInt64) (label : String) : Change :=
  .put .account (.ofNum num) ⟨key label, true, 10000, false⟩

/-- The accounts. -/
def accounts : List Change :=
  [account 13257 "default-payer",
    account 1337 "misc-account",
    account 1339 "no-receiver-sig",
    account 1340 "diligent-signing-payer",
    account 1341 "token-treasury",
    account 1343 "fee-collector",
    account 666 "sys-account",
    account 2 "treasury",
    account 50 "master-payer",
    account 55 "address-book-admin",
    account 56 "fee-schedules-admin",
    account 57 "exchange-rates-admin",
    account 58 "waived-payer",
    signingReceiver 1338 "receiver-sig",
    signingReceiver 1344 "receiver-sig-fee-collector",
    .put .account (.ofNum 1342) ⟨key "deleted-account", false, 10000, true⟩]

/-- A contract. -/
def contract (num : UInt64) (adminKey : Option Key)
    (receiverSigRequired deleted : Bool) : Change :=
  .put .contract (.ofNum num) ⟨adminKey, receiverSigRequired, deleted⟩

/-- The contracts. -/
def contracts : List Change :=
  [contract 1400 (key "misc-contract-admin") false false,
    contract 1401 (key "receiver-sig-contract-admin") true false,
    contract 1402 none false false,
    contract 1403 (Key.leaf (.ofContract (.ofNum 1403))) false false,
    contract 1404 (key "misc-contract-admin") false true]

/-- The files. -/
def files : List Change :=
  [.put .file (.ofNum 1500)
      ⟨wacl ["misc-file-wacl-1", "misc-file-wacl-2"], [], false⟩,
    .put .file (.ofNum 1501) ⟨none, "immutable".toByteArray.data.toList, false⟩,
    .put .file (.ofNum 111) ⟨wacl ["sys-file-wacl"], [], false⟩]

/-- The topics and the tokens. -/
def topicsAndTokens : List Change :=
  [.put .topic (.ofNum 1600)
      ⟨key "topic-admin", key "topic-submit", some (.ofNum 1337), false⟩,
    .put .token (.ofNum 1700)
      ⟨.ofNum 1341, "KEYS", key "token-admin", key "token-kyc",
        key "token-freeze", key "token-wipe", key "token-supply",
        key "token-fee-schedule", false⟩,
    .put .token (.ofNum 1701)
      ⟨.ofNum 1341, "BARE", none, none, none, none, none, none, false⟩]

/-- The transfer that the schedules hold. -/
def scheduledTransfer : Body :=
  .cryptoTransfer ⟨[⟨.ofNum 1337, -1000⟩, ⟨.ofNum 1338, 1000⟩], []⟩

/-- A schedule. -/
def schedule (num : UInt64) (adminKey : Option Key) (payer : Option AccountId)
    (executed : Bool) : Change :=
  .put .schedule (.ofNum num)
    ⟨scheduledTransfer, adminKey, payer, .ofNum 13257, false, executed⟩

/-- The schedules. -/
def schedules : List Change :=
  [schedule 1800 none none false,
    schedule 1801 (key "schedule-admin") (some (.ofNum 1340)) false,
    schedule 1802 none (some (.ofNum 1342)) false,
    schedule 1803 (key "schedule-admin") none true]

/-- The sample ledger. -/
def ledger : Snapshot :=
  match Change.applyAll .empty
      (accounts ++ contracts ++ files ++ topicsAndTokens ++ schedules) with
  | .ok b => b.build
  | .error _ => .empty

-- ============================================================= configuration

/-- The configuration of the sample. -/
def config : SigningConfig :=
  ⟨.usual, ⟨[58]⟩⟩

/-- The configuration of the sample, as a text. -/
def configText : String :=
  "[entities]\ntreasury = 2\nsystem_admin = 50\n\n" ++
    "[waivers]\nwaived_payer_accounts = [58]\n"

end Sample

end SigningOrder
