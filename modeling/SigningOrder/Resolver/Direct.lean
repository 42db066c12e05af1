/-
The keys that each operation requires by itself. An entity is changed under the
key that is stored with it, which comes before all others; what the operation
names, such as a new key or a new treasury, signs behind it. A file or a topic
without keys has none to sign, and whether it may be changed is not decided
here; a contract must have an admin key, and the legacy marker is none.
`directKeys` covers all operations; those that create or sign a schedule
require more, which `Nested.lean` adds.
-/
import SigningOrder.Resolver.Collector
import SigningOrder.Resolver.Transfer

namespace SigningOrder

namespace Resolver

-- ================================================================== accounts

/-- A new account signs if it is to sign what it receives. -/
def cryptoCreate (op : CryptoCreate) : List RequiredKey :=
  if op.receiverSigRequired then [.ofKey op.key] else []

/-- The present key and the new key of an account, where they are not waived. -/
def cryptoUpdate (r : Resolver) (t : Transaction) (op : CryptoUpdate) :
    Except Unresolved (List RequiredKey) := do
  let present ←
    if r.waivers.targetAccount t then .ok []
    else r.accountKey .missingAccount op.account
  return present ++ if r.waivers.newAccount t then [] else optionalKey op.key

/-- The key of the account, and that of the receiver of its balance. -/
def cryptoDelete (r : Resolver) (op : CryptoDelete) :
    Except Unresolved (List RequiredKey) := do
  let target ← r.accountKey .missingAccount op.account
  let beneficiary ← r.receiverKey op.transferAccount
  return target ++ beneficiary

-- ===================================================================== files

/-- The keys of a list that may be there. -/
def optionalWacl (wacl : Option KeyList) (activation : KeyList → Activation) :
    List RequiredKey :=
  (wacl.map fun l => .ofWacl l (activation l)).toList

/-- A new file signs with all of its keys. -/
def fileCreate (op : FileCreate) : List RequiredKey :=
  optionalWacl op.keys fun _ => .standard

/-- The keys of the file, where they are not waived. -/
def fileAppend (r : Resolver) (t : Transaction) (op : FileAppend) :
    Except Unresolved (List RequiredKey) := do
  if r.waivers.appendedFile t then return []
  let m ← r.find .file op.file
  return optionalWacl m.wacl fun _ => .standard

/-- The new keys of a file, where there are any and they are not waived. -/
def newFileKeys (r : Resolver) (t : Transaction) (op : FileUpdate) :
    List RequiredKey :=
  if r.waivers.newFile t then [] else optionalWacl op.keys fun _ => .standard

/-- The rule for the present keys of a file that is updated: they are satisfied
by one of them where the new keys are the same. -/
def presentRule (op : FileUpdate) : Activation :=
  match op.keys with
  | some replacement => .topLevelFile replacement
  | none => .standard

/-- The present keys of the file and its new ones. The new keys of a file
without present ones are not asked for. -/
def fileUpdate (r : Resolver) (t : Transaction) (op : FileUpdate) :
    Except Unresolved (List RequiredKey) := do
  if r.waivers.targetFile t then return r.newFileKeys t op
  let m ← r.find .file op.file
  match m.wacl with
  | none => return []
  | some present =>
    return .ofWacl present (presentRule op) :: r.newFileKeys t op

/-- The keys of the file, one of which is enough. -/
def fileDelete (r : Resolver) (op : FileDelete) :
    Except Unresolved (List RequiredKey) := do
  let m ← r.find .file op.file
  return optionalWacl m.wacl .topLevelFile

-- ================================================================= contracts

/-- The key of a new contract. -/
def contractCreate (op : ContractCreate) : List RequiredKey :=
  optionalKey (Key.usable op.adminKey)

/-- The present admin key of a contract, which must have one. -/
def contractAdmin (r : Resolver) (id : ContractId) :
    Except Unresolved (List RequiredKey) := do
  let m ← r.find .contract id
  match m.adminKey with
  | some k => return [.ofKey k]
  | none => throw ⟨.immutableContract, some id.ref⟩

/-- The present admin key, if more than the expiration changes, and the new
one. -/
def contractUpdate (r : Resolver) (op : ContractUpdate) :
    Except Unresolved (List RequiredKey) := do
  let present ← if op.needsAdmin then r.contractAdmin op.contract else .ok []
  return present ++ optionalKey (Key.usable op.adminKey)

/-- The key of who receives what a contract holds, where it must sign. -/
def obtainerKey (r : Resolver) : Obtainer → Except Unresolved (List RequiredKey)
  | .account id => r.receiverKey id
  | .contract id => do
    let m ← r.find .contract id
    return if m.receiverSigRequired then optionalKey m.adminKey else []

/-- The admin key, and that of the obtainer. -/
def contractDelete (r : Resolver) (op : ContractDelete) :
    Except Unresolved (List RequiredKey) := do
  let present ← r.contractAdmin op.contract
  let obtainer ← whenSome op.obtainer r.obtainerKey
  return present ++ obtainer

-- ==================================================================== topics

/-- The admin key, and that of the auto-renew account. -/
def topicCreate (r : Resolver) (op : TopicCreate) :
    Except Unresolved (List RequiredKey) := do
  let renewal ←
    whenSome op.autoRenewAccount (r.accountKey .missingAutoRenewAccount)
  return optionalKey op.adminKey ++ renewal

/-- The present and the new admin key, and that of a new auto-renew account.
Anyone may extend the expiration. -/
def topicUpdate (r : Resolver) (op : TopicUpdate) :
    Except Unresolved (List RequiredKey) := do
  if op.expiryOnly then return []
  let m ← r.find .topic op.topic
  let renewal ←
    whenSome (op.autoRenewAccount.filter (!·.isSentinel))
      (r.accountKey .missingAutoRenewAccount)
  return optionalKey m.adminKey ++ optionalKey op.adminKey ++ renewal

/-- The admin key. -/
def topicDelete (r : Resolver) (op : TopicDelete) :
    Except Unresolved (List RequiredKey) := do
  let m ← r.find .topic op.topic
  return optionalKey m.adminKey

/-- The submit key. -/
def submitMessage (r : Resolver) (op : SubmitMessage) :
    Except Unresolved (List RequiredKey) := do
  let m ← r.find .topic op.topic
  return optionalKey m.submitKey

-- ==================================================================== tokens

/-- The keys of the treasury, of the auto-renew account, of the administration,
and of the collectors. -/
def tokenCreate (r : Resolver) (op : TokenCreate) :
    Except Unresolved (List RequiredKey) := do
  let treasury ← r.accountKey .missingAccount op.treasury
  let renewal ←
    whenSome op.autoRenewAccount (r.accountKey .invalidAutoRenewAccount)
  let collectors ← r.feeCollectors EntityId.isSentinel op.customFees
  return treasury ++ renewal ++ optionalKey op.adminKey ++ collectors

/-- The present admin key, those of a new treasury and a new auto-renew
account, and the new admin key. A token without an admin key cannot be updated,
and none is asked for. -/
def tokenUpdate (r : Resolver) (op : TokenUpdate) :
    Except Unresolved (List RequiredKey) := do
  let m ← r.find .token op.token
  match m.adminKey with
  | none => return []
  | some admin =>
    let treasury ← whenSome op.treasury (r.accountKey .missingAccount)
    let renewal ←
      whenSome op.autoRenewAccount (r.accountKey .invalidAutoRenewAccount)
    return .ofKey admin :: treasury ++ renewal ++ optionalKey op.adminKey

/-- The key that a token has for a role. -/
def tokenRole (r : Resolver) (role : TokenMeta → Option Key) (id : TokenId) :
    Except Unresolved (List RequiredKey) := do
  let m ← r.find .token id
  return optionalKey (role m)

/-- The key of the account. -/
def tokenAssociation (r : Resolver) (op : TokenAssociation) :
    Except Unresolved (List RequiredKey) :=
  r.accountKey .missingAccount op.account

/-- The key for the fees and those of the collectors. The fees of a token
without such a key cannot be changed, and the collectors are not looked at. -/
def tokenFeeScheduleUpdate (r : Resolver) (op : TokenFeeScheduleUpdate) :
    Except Unresolved (List RequiredKey) := do
  let m ← r.find .token op.token
  match m.feeScheduleKey with
  | none => return []
  | some k =>
    let collectors ←
      r.feeCollectors (fun t => t == op.token || t.isSentinel) op.customFees
    return .ofKey k :: collectors

-- ============================================================ all operations

/-- The keys that an operation requires by itself, apart from what a schedule
holds. -/
def directKeys (r : Resolver) (t : Transaction) :
    Except Unresolved (List RequiredKey) :=
  match t.body with
  | .cryptoCreate op => .ok (cryptoCreate op)
  | .cryptoTransfer op => r.cryptoTransfer op
  | .cryptoUpdate op => r.cryptoUpdate t op
  | .cryptoDelete op => r.cryptoDelete op
  | .fileCreate op => .ok (fileCreate op)
  | .fileAppend op => r.fileAppend t op
  | .fileUpdate op => r.fileUpdate t op
  | .fileDelete op => r.fileDelete op
  | .contractCreate op => .ok (contractCreate op)
  | .contractUpdate op => r.contractUpdate op
  | .contractDelete op => r.contractDelete op
  | .contractCall _ => .ok []
  | .topicCreate op => r.topicCreate op
  | .topicUpdate op => r.topicUpdate op
  | .topicDelete op => r.topicDelete op
  | .submitMessage op => r.submitMessage op
  | .tokenCreate op => r.tokenCreate op
  | .tokenUpdate op => r.tokenUpdate op
  | .tokenDelete op => r.tokenRole (·.adminKey) op.token
  | .tokenFreeze op => r.tokenRole (·.freezeKey) op.token
  | .tokenUnfreeze op => r.tokenRole (·.freezeKey) op.token
  | .tokenGrantKyc op => r.tokenRole (·.kycKey) op.token
  | .tokenRevokeKyc op => r.tokenRole (·.kycKey) op.token
  | .tokenWipe op => r.tokenRole (·.wipeKey) op.token
  | .tokenMint op => r.tokenRole (·.supplyKey) op.token
  | .tokenBurn op => r.tokenRole (·.supplyKey) op.token
  | .tokenAssociate op => r.tokenAssociation op
  | .tokenDissociate op => r.tokenAssociation op
  | .tokenFeeScheduleUpdate op => r.tokenFeeScheduleUpdate op
  | .scheduleCreate _ _ => .ok []
  | .scheduleSign _ => .ok []
  | .scheduleDelete op => do
    let m ← r.find .schedule op.schedule
    return optionalKey m.adminKey
  | .systemDelete _ => .ok []
  | .systemUndelete _ => .ok []
  | .freeze _ => .ok []

end Resolver

end SigningOrder
