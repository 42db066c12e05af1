/-
No change without the controlling key. Most operations act on an entity that
exists already, and with the entity a key is stored for that operation: the
key of an account, the WACL of a file, a role key of a token. `Body.control?`
says which entity and which key, for every operation, apart from how
resolution goes about it; `controllingKey_first` says that resolution looks
the entity up and puts that key first.

Two things set it aside. A waiver may drop the key (`waivesControl`), and an
update that does nothing but extend an expiration asks for none at all
(`Body.OnlyExtends`): anyone may pay to keep a topic or a contract alive. Which
updates these are is said here by what they leave unset, and nothing is looked
up for them (`keysForOtherParties_of_onlyExtends`). That is no waiver, so a
rule that allowed for waivers alone would be wrong (`extension_unguarded`).
-/
import SigningOrder.Proofs.Order.Dedup
import SigningOrder.Proofs.Resolver.Rule
import SigningOrder.Sample.Ledger

namespace SigningOrder

-- =========================================================== who controls

/-- An entity that an operation acts on, and which of the stored keys
controls the operation, where there is one. -/
structure Control where
  kind : EntityKind
  id : EntityId kind
  key : Meta kind → Option Key

namespace Control

/-- An account is controlled by its key. -/
def ofAccount (id : AccountId) : Control where
  kind := .account
  id := id
  key m := some m.key

/-- A file is controlled by its WACL. -/
def ofFile (id : FileId) : Control where
  kind := .file
  id := id
  key m := m.wacl.map .ofKeyList

/-- A contract is controlled by an admin key that can sign. -/
def ofContract (id : ContractId) : Control where
  kind := .contract
  id := id
  key m := m.adminKey

/-- A topic is controlled by the key of a role. -/
def ofTopic (id : TopicId) (role : TopicMeta → Option Key) : Control :=
  ⟨.topic, id, role⟩

/-- A token is controlled by the key of a role. -/
def ofToken (id : TokenId) (role : TokenMeta → Option Key) : Control :=
  ⟨.token, id, role⟩

/-- A schedule is controlled by its admin key. -/
def ofSchedule (id : ScheduleId) : Control where
  kind := .schedule
  id := id
  key m := m.adminKey

end Control

namespace Body

/-- The entity that an operation acts on, with the key that controls it.
What creates an entity, moves what is held, calls a contract, or signs a
schedule, acts on none. -/
def control? : Body → Option Control
  | cryptoUpdate op => some (.ofAccount op.account)
  | cryptoDelete op => some (.ofAccount op.account)
  | fileAppend op => some (.ofFile op.file)
  | fileUpdate op => some (.ofFile op.file)
  | fileDelete op => some (.ofFile op.file)
  | contractUpdate op => some (.ofContract op.contract)
  | contractDelete op => some (.ofContract op.contract)
  | topicUpdate op => some (.ofTopic op.topic (·.adminKey))
  | topicDelete op => some (.ofTopic op.topic (·.adminKey))
  | submitMessage op => some (.ofTopic op.topic (·.submitKey))
  | tokenUpdate op => some (.ofToken op.token (·.adminKey))
  | tokenDelete op => some (.ofToken op.token (·.adminKey))
  | tokenFreeze op => some (.ofToken op.token (·.freezeKey))
  | tokenUnfreeze op => some (.ofToken op.token (·.freezeKey))
  | tokenGrantKyc op => some (.ofToken op.token (·.kycKey))
  | tokenRevokeKyc op => some (.ofToken op.token (·.kycKey))
  | tokenWipe op => some (.ofToken op.token (·.wipeKey))
  | tokenMint op => some (.ofToken op.token (·.supplyKey))
  | tokenBurn op => some (.ofToken op.token (·.supplyKey))
  | tokenAssociate op => some (.ofAccount op.account)
  | tokenDissociate op => some (.ofAccount op.account)
  | tokenFeeScheduleUpdate op => some (.ofToken op.token (·.feeScheduleKey))
  | scheduleDelete op => some (.ofSchedule op.schedule)
  | _ => none

end Body

/-- An update of a contract that sets an expiration and nothing else. The
legacy marker does not count as an admin key, nor an empty text as a memo. -/
structure ContractUpdate.OnlyExtends (op : ContractUpdate) : Prop where
  expiration : op.expiration ≠ none
  adminKey : ∀ k ∈ op.adminKey, k.isDeprecated = true
  autoRenewPeriod : op.autoRenewPeriod = none
  proxyAccount : op.proxyAccount = none
  file : op.file = none
  memo : ∀ m ∈ op.memo, m = ""

/-- An update of a topic that sets an expiration and nothing else. -/
structure TopicUpdate.OnlyExtends (op : TopicUpdate) : Prop where
  expiration : op.expiration ≠ none
  adminKey : op.adminKey = none
  submitKey : op.submitKey = none
  memo : op.memo = none
  autoRenewPeriod : op.autoRenewPeriod = none
  autoRenewAccount : op.autoRenewAccount = none

/-- An operation that only extends an expiration, which anyone may do. -/
def Body.OnlyExtends : Body → Prop
  | contractUpdate op => op.OnlyExtends
  | topicUpdate op => op.OnlyExtends
  | _ => False

/-- The updates of contracts that need no admin key only extend. -/
theorem ContractUpdate.onlyExtends_iff {op : ContractUpdate} :
    op.OnlyExtends ↔ op.needsAdmin = false := by
  have hmarker : op.adminKey.any (fun k => !k.isDeprecated) = false
      ↔ ∀ k ∈ op.adminKey, k.isDeprecated = true := by
    cases op.adminKey <;> simp
  have hempty : op.memo.any (fun m => !m.isEmpty) = false
      ↔ ∀ m ∈ op.memo, m = "" := by
    cases op.memo <;> simp
  unfold needsAdmin
  simp only [Bool.or_eq_false_iff, hmarker, hempty,
    Option.isNone_eq_false_iff, Option.isSome_iff_ne_none,
    Option.isSome_eq_false_iff, Option.isNone_iff_eq_none]
  constructor
  · rintro ⟨hexpiration, hadmin, hperiod, hproxy, hfile, hmemo⟩
    exact ⟨⟨⟨⟨⟨hexpiration, hadmin⟩, hproxy⟩, hperiod⟩, hfile⟩, hmemo⟩
  · rintro ⟨⟨⟨⟨⟨hexpiration, hadmin⟩, hproxy⟩, hperiod⟩, hfile⟩, hmemo⟩
    exact ⟨hexpiration, hadmin, hperiod, hproxy, hfile, hmemo⟩

/-- The updates of topics for which nothing is asked only extend. -/
theorem TopicUpdate.onlyExtends_iff {op : TopicUpdate} :
    op.OnlyExtends ↔ op.expiryOnly = true := by
  unfold expiryOnly
  simp only [Bool.and_eq_true, Option.isSome_iff_ne_none,
    Option.isNone_iff_eq_none]
  constructor
  · rintro ⟨hexpiration, hadmin, hsubmit, hmemo, hperiod, haccount⟩
    exact ⟨⟨⟨⟨⟨hexpiration, hadmin⟩, hsubmit⟩, hmemo⟩, hperiod⟩, haccount⟩
  · rintro ⟨⟨⟨⟨⟨hexpiration, hadmin⟩, hsubmit⟩, hmemo⟩, hperiod⟩, haccount⟩
    exact ⟨hexpiration, hadmin, hsubmit, hmemo, hperiod, haccount⟩

namespace Resolver

/-- Whether the controlling key of a transaction is waived. -/
def waivesControl (r : Resolver) (t : Transaction) : Bool :=
  match t.body with
  | .cryptoUpdate _ => r.waivers.targetAccount t
  | .fileAppend _ => r.waivers.appendedFile t
  | .fileUpdate _ => r.waivers.targetFile t
  | _ => false

/-- In the order, the controlling key of a transaction comes first: the
entity looks up, and the key that is stored for the operation, if there is
one, heads the order. -/
def ControlFirst (r : Resolver) (t : Transaction) (order : List OrderedKey) :
    Prop :=
  ∀ c, t.body.control? = some c →
    ∃ m, r.lookup c.kind c.id = .ok m
      ∧ ∀ k, c.key m = some k →
        ∃ o rest, order = o :: rest ∧ o.key = k ∧ o.scope = t.id.scope

-- ======================================================= what is named first

/-- The entity of a control looks up, and the key that is stored with it,
if there is one, is named first. -/
def Heads (r : Resolver) (c : Control) (keys : List RequiredKey) : Prop :=
  ∃ m, r.lookup c.kind c.id = .ok m
    ∧ ∀ k, c.key m = some k → ∃ o rest, keys = o :: rest ∧ o.key = k

variable {r : Resolver} {t : Transaction} {c : Control}
  {keys : List RequiredKey}

/-- What is named behind the controlling key does not displace it. -/
theorem Heads.append (h : r.Heads c keys) (more : List RequiredKey) :
    r.Heads c (keys ++ more) := by
  obtain ⟨m, hm, hfirst⟩ := h
  refine ⟨m, hm, fun k hk => ?_⟩
  obtain ⟨o, rest, hkeys, ho⟩ := hfirst k hk
  rw [hkeys]
  exact ⟨o, rest ++ more, rfl, ho⟩

/-- A stored key that may be there is named first where it is. -/
theorem heads_optionalKey {m : Meta c.kind}
    (hm : r.lookup c.kind c.id = .ok m) : r.Heads c (optionalKey (c.key m)) := by
  refine ⟨m, hm, fun k hk => ?_⟩
  rw [hk]
  exact ⟨.ofKey k, [], rfl, rfl⟩

/-- An operation that looks an entity up and names a stored key does no
more. -/
theorem heads_optionalOf
    (h : (do
      let m ← r.find c.kind c.id
      return optionalKey (c.key m)) = .ok keys) : r.Heads c keys := by
  obtain ⟨m, hm, h⟩ := bind_eq_ok.1 h
  rw [← pure_eq_ok.1 h]
  exact heads_optionalKey (findFor_eq_ok.1 hm)

theorem heads_accountKey {role : FailureReason} {id : AccountId}
    (h : r.accountKey role id = .ok keys) : r.Heads (.ofAccount id) keys := by
  obtain ⟨m, hm, rfl⟩ := accountKey_eq_ok.1 h
  refine ⟨m, hm, fun k hk => ?_⟩
  exact ⟨.ofKey m.key, [], rfl, Option.some.inj hk⟩

theorem heads_contractAdmin {id : ContractId}
    (h : r.contractAdmin id = .ok keys) : r.Heads (.ofContract id) keys := by
  obtain ⟨m, hm, admin, hadmin, rfl⟩ := contractAdmin_eq_ok.1 h
  refine ⟨m, hm, fun k hk => ⟨.ofKey admin, [], rfl, ?_⟩⟩
  exact Option.some.inj (hadmin.symm.trans hk)

/-- The keys of a file are named first, under whichever rule. -/
theorem heads_optionalWacl {id : FileId} {m : FileMeta}
    (hm : r.lookup .file id = .ok m) (rule : KeyList → Activation) :
    r.Heads (.ofFile id) (optionalWacl m.wacl rule) := by
  refine ⟨m, hm, fun k hk => ?_⟩
  obtain ⟨wacl, hwacl, rfl⟩ := Option.map_eq_some_iff.1 hk
  unfold optionalWacl
  rw [hwacl]
  exact ⟨.ofWacl wacl (rule wacl), [], rfl, rfl⟩

-- ================================================== operation by operation

-- Each of these opens the chain of one operation down to the step that names
-- the controlling key; what the operation names behind it is never looked at.

theorem heads_cryptoUpdate {op : CryptoUpdate}
    (hw : r.waivers.targetAccount t = false)
    (h : r.cryptoUpdate t op = .ok keys) :
    r.Heads (.ofAccount op.account) keys := by
  rw [cryptoUpdate_eq, hw] at h
  obtain ⟨present, hpresent, h⟩ := bind_eq_ok.1 h
  rw [← pure_eq_ok.1 h]
  exact (heads_accountKey hpresent).append _

theorem heads_cryptoDelete {op : CryptoDelete}
    (h : r.cryptoDelete op = .ok keys) :
    r.Heads (.ofAccount op.account) keys := by
  unfold cryptoDelete at h
  obtain ⟨target, htarget, h⟩ := bind_eq_ok.1 h
  obtain ⟨beneficiary, -, h⟩ := bind_eq_ok.1 h
  rw [← pure_eq_ok.1 h]
  exact (heads_accountKey htarget).append _

theorem heads_fileAppend {op : FileAppend}
    (hw : r.waivers.appendedFile t = false)
    (h : r.fileAppend t op = .ok keys) : r.Heads (.ofFile op.file) keys := by
  unfold fileAppend at h
  rw [hw] at h
  obtain ⟨m, hm, h⟩ := bind_eq_ok.1 h
  rw [← pure_eq_ok.1 h]
  exact heads_optionalWacl (findFor_eq_ok.1 hm) _

theorem heads_fileUpdate {op : FileUpdate}
    (hw : r.waivers.targetFile t = false)
    (h : r.fileUpdate t op = .ok keys) : r.Heads (.ofFile op.file) keys := by
  unfold fileUpdate at h
  rw [hw] at h
  obtain ⟨m, hm, h⟩ := bind_eq_ok.1 h
  refine ⟨m, findFor_eq_ok.1 hm, fun k hk => ?_⟩
  obtain ⟨wacl, hwacl, rfl⟩ := Option.map_eq_some_iff.1 hk
  rw [hwacl] at h
  rw [← pure_eq_ok.1 h]
  exact ⟨.ofWacl wacl (presentRule op), r.newFileKeys t op, rfl, rfl⟩

theorem heads_contractUpdate {op : ContractUpdate}
    (hadmin : op.needsAdmin = true) (h : r.contractUpdate op = .ok keys) :
    r.Heads (.ofContract op.contract) keys := by
  rw [contractUpdate_eq, hadmin] at h
  obtain ⟨present, hpresent, h⟩ := bind_eq_ok.1 h
  rw [← pure_eq_ok.1 h]
  exact (heads_contractAdmin hpresent).append _

theorem heads_contractDelete {op : ContractDelete}
    (h : r.contractDelete op = .ok keys) :
    r.Heads (.ofContract op.contract) keys := by
  unfold contractDelete at h
  obtain ⟨present, hpresent, h⟩ := bind_eq_ok.1 h
  obtain ⟨obtainer, -, h⟩ := bind_eq_ok.1 h
  rw [← pure_eq_ok.1 h]
  exact (heads_contractAdmin hpresent).append _

theorem heads_topicUpdate {op : TopicUpdate} (hmore : op.expiryOnly = false)
    (h : r.topicUpdate op = .ok keys) :
    r.Heads (.ofTopic op.topic (·.adminKey)) keys := by
  unfold topicUpdate at h
  rw [hmore] at h
  obtain ⟨m, hm, h⟩ := bind_eq_ok.1 h
  obtain ⟨renewal, -, h⟩ := bind_eq_ok.1 h
  rw [← pure_eq_ok.1 h, List.append_assoc]
  have hfound : r.lookup .topic op.topic = .ok m := findFor_eq_ok.1 hm
  exact (heads_optionalKey (c := .ofTopic op.topic (·.adminKey))
    hfound).append _

theorem heads_tokenUpdate {op : TokenUpdate}
    (h : r.tokenUpdate op = .ok keys) :
    r.Heads (.ofToken op.token (·.adminKey)) keys := by
  unfold tokenUpdate at h
  obtain ⟨m, hm, h⟩ := bind_eq_ok.1 h
  refine ⟨m, findFor_eq_ok.1 hm, fun k hk => ?_⟩
  have hadmin : m.adminKey = some k := hk
  rw [hadmin] at h
  obtain ⟨treasury, -, h⟩ := bind_eq_ok.1 h
  obtain ⟨renewal, -, h⟩ := bind_eq_ok.1 h
  rw [← pure_eq_ok.1 h]
  exact ⟨.ofKey k, _, rfl, rfl⟩

theorem heads_tokenFeeScheduleUpdate {op : TokenFeeScheduleUpdate}
    (h : r.tokenFeeScheduleUpdate op = .ok keys) :
    r.Heads (.ofToken op.token (·.feeScheduleKey)) keys := by
  unfold tokenFeeScheduleUpdate at h
  obtain ⟨m, hm, h⟩ := bind_eq_ok.1 h
  refine ⟨m, findFor_eq_ok.1 hm, fun k hk => ?_⟩
  have hfees : m.feeScheduleKey = some k := hk
  rw [hfees] at h
  obtain ⟨collectors, -, h⟩ := bind_eq_ok.1 h
  rw [← pure_eq_ok.1 h]
  exact ⟨.ofKey k, collectors, rfl, rfl⟩

-- ===================================================== all operations

/-- Unless it is waived, or the operation only extends an expiration, the
controlling key is named first. -/
theorem heads_directKeys (hw : r.waivesControl t = false)
    (hmore : ¬ t.body.OnlyExtends) (hc : t.body.control? = some c)
    (h : r.directKeys t = .ok keys) : r.Heads c keys := by
  obtain ⟨id, body⟩ := t
  cases body with
  | cryptoUpdate op =>
      cases hc
      exact heads_cryptoUpdate hw h
  | cryptoDelete op =>
      cases hc
      exact heads_cryptoDelete h
  | fileAppend op =>
      cases hc
      exact heads_fileAppend hw h
  | fileUpdate op =>
      cases hc
      exact heads_fileUpdate hw h
  | fileDelete op =>
      cases hc
      obtain ⟨m, hm, rfl⟩ := fileDelete_eq_ok.1 h
      exact heads_optionalWacl hm _
  | contractUpdate op =>
      cases hc
      have hadmin : op.needsAdmin = true :=
        eq_true_of_ne_false (mt ContractUpdate.onlyExtends_iff.2 hmore)
      exact heads_contractUpdate hadmin h
  | contractDelete op =>
      cases hc
      exact heads_contractDelete h
  | topicUpdate op =>
      cases hc
      have hexpiry : op.expiryOnly = false :=
        eq_false_of_ne_true (mt TopicUpdate.onlyExtends_iff.2 hmore)
      exact heads_topicUpdate hexpiry h
  | tokenUpdate op =>
      cases hc
      exact heads_tokenUpdate h
  | tokenFeeScheduleUpdate op =>
      cases hc
      exact heads_tokenFeeScheduleUpdate h
  | tokenAssociate op =>
      cases hc
      exact heads_accountKey h
  | tokenDissociate op =>
      cases hc
      exact heads_accountKey h
  | topicDelete op => cases hc; exact heads_optionalOf h
  | submitMessage op => cases hc; exact heads_optionalOf h
  | tokenDelete op => cases hc; exact heads_optionalOf h
  | tokenFreeze op => cases hc; exact heads_optionalOf h
  | tokenUnfreeze op => cases hc; exact heads_optionalOf h
  | tokenGrantKyc op => cases hc; exact heads_optionalOf h
  | tokenRevokeKyc op => cases hc; exact heads_optionalOf h
  | tokenWipe op => cases hc; exact heads_optionalOf h
  | tokenMint op => cases hc; exact heads_optionalOf h
  | tokenBurn op => cases hc; exact heads_optionalOf h
  | scheduleDelete op => cases hc; exact heads_optionalOf h
  | _ => cases hc

/-- A schedule does not get around the controlling key: whatever takes
effect, the entity that it acts on looks up, and the key that is stored for
it is in the order, for the transaction that takes effect. Keys of the
operation on the schedule may come before it, or be the same. -/
theorem controllingKey_mem (r : Resolver) (t : Transaction)
    (order : List OrderedKey) (h : r.keysForOtherParties t = .ok order)
    (hw : r.waivesControl (r.lookup.effective t) = false)
    (hmore : ¬ (r.lookup.effective t).body.OnlyExtends)
    (hc : (r.lookup.effective t).body.control? = some c) :
    ∃ m, r.lookup c.kind c.id = .ok m
      ∧ ∀ k, c.key m = some k →
        ((r.lookup.effective t).id.scope, k.canonical)
          ∈ order.map OrderedKey.identity := by
  obtain ⟨collected, hcollect, rfl⟩ := keysForOtherParties_eq_ok.1 h
  obtain ⟨own, -, rest, hrest, rfl⟩ := collectKeys_eq_ok.1 hcollect
  obtain ⟨-, direct, hdirect, rfl⟩ := effectiveKeys_eq_ok.1 hrest
  obtain ⟨m, hm, hfirst⟩ := heads_directKeys hw hmore hc hdirect
  refine ⟨m, hm, fun k hk => ?_⟩
  obtain ⟨o, tail, rfl, rfl⟩ := hfirst k hk
  have hmem : OrderedKey.inScope (r.lookup.effective t).id.scope o
      ∈ own ++ (o :: tail).map
        (OrderedKey.inScope (r.lookup.effective t).id.scope) :=
    List.mem_append_right own (List.mem_map_of_mem List.mem_cons_self)
  exact OrderedKey.identity_mem_dedup hmem

/-- An operation on an existing entity runs no schedule. -/
theorem runsSchedule_of_control (hc : t.body.control? = some c) :
    t.body.runsSchedule = false := by
  obtain ⟨id, body⟩ := t
  cases body <;> first | rfl | cases hc

/-- No change without the controlling key: the entity that an operation acts
on looks up, and the key that is stored with it for the operation, if there
is one, is the first of the order. It is set aside by a waiver of that key,
and where the operation only extends an expiration. -/
theorem controllingKey_first (r : Resolver) (t : Transaction)
    (order : List OrderedKey) (h : r.keysForOtherParties t = .ok order)
    (hw : r.waivesControl t = false) (hmore : ¬ t.body.OnlyExtends) :
    r.ControlFirst t order := by
  intro c hc
  obtain ⟨collected, hcollect, rfl⟩ := keysForOtherParties_eq_ok.1 h
  obtain ⟨direct, hdirect, rfl⟩ := (collectKeys_eq_ok_of_not_runsSchedule
    (runsSchedule_of_control hc)).1 hcollect
  obtain ⟨m, hm, hfirst⟩ := heads_directKeys hw hmore hc hdirect
  refine ⟨m, hm, fun k hk => ?_⟩
  obtain ⟨o, rest, rfl, ho⟩ := hfirst k hk
  rw [List.map_cons, OrderedKey.dedup_cons]
  exact ⟨_, _, rfl, ho, rfl⟩

-- ============================================================= extensions

/-- An operation that only extends an expiration names no key, and does not
even look its entity up. -/
theorem directKeys_of_onlyExtends (h : t.body.OnlyExtends) :
    r.directKeys t = .ok [] := by
  obtain ⟨id, body⟩ := t
  cases body with
  | contractUpdate op =>
      have hadmin : op.needsAdmin = false := ContractUpdate.onlyExtends_iff.1 h
      have hmarker : ∀ k ∈ op.adminKey, k.isDeprecated = true := h.adminKey
      have hnew : Key.usable op.adminKey = none :=
        Option.filter_eq_none_iff.2 fun k hk => by simpa using hmarker k hk
      show r.contractUpdate op = .ok []
      rw [contractUpdate_eq, hadmin, hnew]
      rfl
  | topicUpdate op =>
      have hexpiry : op.expiryOnly = true := TopicUpdate.onlyExtends_iff.1 h
      show r.topicUpdate op = .ok []
      unfold topicUpdate
      rw [hexpiry]
      rfl
  | _ => exact h.elim

/-- Anyone may extend an expiration: the order is empty, on every ledger. -/
theorem keysForOtherParties_of_onlyExtends (h : t.body.OnlyExtends) :
    r.keysForOtherParties t = .ok [] := by
  have hruns : t.body.runsSchedule = false := by
    obtain ⟨id, body⟩ := t
    cases body <;> first | rfl | cases h
  have hcollect : r.collectKeys t = .ok [] :=
    (collectKeys_eq_ok_of_not_runsSchedule hruns).2
      ⟨[], directKeys_of_onlyExtends h, rfl⟩
  exact keysForOtherParties_eq_ok.2 ⟨[], hcollect, rfl⟩

-- ================================================= one topic, one contract

/-- A resolver that waives nothing, on a ledger where every topic and every
contract has the admin key, and nothing else exists. -/
def administered (admin : Key) : Resolver where
  lookup :=
    (Lookup.empty.withKind .topic fun _ => .ok ⟨some admin, none⟩).withKind
      .contract fun _ => .ok ⟨some admin, false⟩
  waivers := .nothing

/-- The key of the administrator. -/
def adminKey : Key := .leaf (.ed25519 [1])

/-- A key that is to replace it. -/
def nextKey : Key := .leaf (.ed25519 [2])

/-- An expiration. -/
def later : Instant := ⟨1700000000, 0⟩

/-- Extends the expiration of a topic, and replaces its admin key. -/
def rekeyTopic : Transaction :=
  Sample.txn (.ofNum 1001)
    (.topicUpdate
      ⟨.ofNum 1600, some nextKey, none, none, some later, none, none⟩)

/-- Extends the expiration of a topic. -/
def extendTopic : Transaction :=
  Sample.txn (.ofNum 1001)
    (.topicUpdate ⟨.ofNum 1600, none, none, none, some later, none, none⟩)

/-- Extends the expiration of a contract. -/
def extendContract : Transaction :=
  Sample.txn (.ofNum 1001)
    (.contractUpdate ⟨.ofNum 1400, none, some later, none, none, none, none⟩)

/-- Replacing the admin key of a topic takes the present one, before the new
one, even if the expiration is extended along with it. -/
theorem controllingKey_first_rekeyTopic :
    (administered adminKey).keysForOtherParties rekeyTopic
        = .ok [.outer adminKey, .outer nextKey]
      ∧ (administered adminKey).waivesControl rekeyTopic = false
      ∧ ¬ rekeyTopic.body.OnlyExtends
      ∧ (administered adminKey).ControlFirst rekeyTopic
          [.outer adminKey, .outer nextKey] := by
  have hmore : ¬ rekeyTopic.body.OnlyExtends := fun h => nomatch h.adminKey
  exact ⟨rfl, rfl, hmore, controllingKey_first _ _ _ rfl rfl hmore⟩

/-- Waivers are not all that sets the controlling key aside: the expiration
of a topic or a contract is extended without its admin key, and nothing was
waived. -/
theorem extension_unguarded :
    ((administered adminKey).keysForOtherParties extendTopic = .ok []
        ∧ (administered adminKey).waivesControl extendTopic = false
        ∧ ¬(administered adminKey).ControlFirst extendTopic [])
      ∧ (administered adminKey).keysForOtherParties extendContract = .ok []
        ∧ (administered adminKey).waivesControl extendContract = false
        ∧ ¬(administered adminKey).ControlFirst extendContract [] := by
  have htopic : extendTopic.body.OnlyExtends :=
    TopicUpdate.OnlyExtends.mk nofun rfl rfl rfl rfl rfl
  have hcontract : extendContract.body.OnlyExtends :=
    ContractUpdate.OnlyExtends.mk nofun nofun rfl rfl rfl nofun
  refine ⟨⟨keysForOtherParties_of_onlyExtends htopic, rfl, fun h => ?_⟩,
    keysForOtherParties_of_onlyExtends hcontract, rfl, fun h => ?_⟩
  · obtain ⟨m, hm, hfirst⟩ := h _ rfl
    cases hm
    obtain ⟨o, rest, hnil, -⟩ := hfirst adminKey rfl
    cases hnil
  · obtain ⟨m, hm, hfirst⟩ := h _ rfl
    cases hm
    obtain ⟨o, rest, hnil, -⟩ := hfirst adminKey rfl
    cases hnil

end Resolver

end SigningOrder
