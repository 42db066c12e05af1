/-
Which keys come under which rule. Every operation names its keys under the
usual rule, except the two that drop the present keys of a file: an update
with new keys, and a deletion. So in whatever is collected for a
transaction, a key under the relaxed rule is one of the keys of a file, and
it comes from what takes effect, never from the operation on a schedule
around it.

One lemma per operation that consults something (`usual_…`), and one for all
of them (`usual_directKeys`).
-/
import SigningOrder.Proofs.Resolver.Effective

namespace SigningOrder

/-- A key under the usual rule. -/
def RequiredKey.Usual (k : RequiredKey) : Prop :=
  k.activation = .standard

/-- Whether an operation drops the present keys of a file. -/
def Body.dropsWacl : Body → Bool
  | fileUpdate _ => true
  | fileDelete _ => true
  | _ => false

namespace Resolver

variable {r : Resolver} {t : Transaction}

-- ============================================================ the steps

theorem usual_accountKey {role : FailureReason} {id : AccountId} :
    OnlyNames RequiredKey.Usual (r.accountKey role id) :=
  onlyNames_accountKey fun _ _ => rfl

theorem usual_receiverKey {id : AccountId} :
    OnlyNames RequiredKey.Usual (r.receiverKey id) :=
  onlyNames_receiverKey fun _ _ => rfl

theorem usual_optionalKey (key : Option Key) :
    ∀ k ∈ optionalKey key, k.Usual :=
  forall_mem_optionalKey fun _ _ => rfl

theorem usual_whenAccount {role : FailureReason} {id : Option AccountId} :
    OnlyNames RequiredKey.Usual (whenSome id (r.accountKey role)) :=
  onlyNames_whenSome fun _ _ => usual_accountKey

/-- The keys of a list that may be there are under the rule that is given
for it. -/
theorem usual_optionalWacl (wacl : Option KeyList) :
    ∀ k ∈ optionalWacl wacl fun _ => .standard, k.Usual := by
  intro k hk
  unfold optionalWacl at hk
  rw [Option.mem_toList] at hk
  obtain ⟨l, -, rfl⟩ := Option.map_eq_some_iff.1 hk
  rfl

/-- Whatever is found, the keys that it may have are named. -/
theorem usual_optionalOf {kind : EntityKind} {id : EntityId kind}
    (role : Meta kind → Option Key) :
    OnlyNames RequiredKey.Usual (do
      let m ← r.find kind id
      return optionalKey (role m)) :=
  onlyNames_bind fun _ _ => onlyNames_pure (usual_optionalKey _)

/-- The keys of the collectors of fees. -/
theorem usual_feeCollectors {own : TokenId → Bool} {fees : List CustomFee} :
    OnlyNames RequiredKey.Usual (r.feeCollectors own fees) := by
  refine onlyNames_forEach fun fee _ => ?_
  unfold collectorKey
  refine onlyNames_bind fun m _ => onlyNames_pure ?_
  intro k hk
  split at hk
  · rw [List.mem_singleton.1 hk]
    rfl
  · cases hk

-- ======================================================= the operations

-- The chains are opened from the left, so every part of the result is there
-- with the step that named it when the end of the chain is reached.

theorem usual_cryptoTransfer {op : CryptoTransfer} :
    OnlyNames RequiredKey.Usual (r.cryptoTransfer op) := by
  unfold cryptoTransfer
  refine onlyNames_bind fun senders hs => ?_
  refine onlyNames_bind fun receivers hr => onlyNames_pure ?_
  have hsenders := onlyNames_forEach (fun _ _ => usual_accountKey) senders hs
  have hreceivers :=
    onlyNames_forEach (fun _ _ => usual_receiverKey) receivers hr
  exact List.forall_mem_append.2 ⟨hsenders, hreceivers⟩

theorem usual_cryptoUpdate {op : CryptoUpdate} :
    OnlyNames RequiredKey.Usual (r.cryptoUpdate t op) := by
  rw [cryptoUpdate_eq]
  refine onlyNames_bind fun present hp => onlyNames_pure ?_
  refine List.forall_mem_append.2 ⟨?_, ?_⟩
  · split at hp
    · cases hp
      exact List.forall_mem_nil _
    · exact usual_accountKey present hp
  · split
    · exact List.forall_mem_nil _
    · exact usual_optionalKey op.key

theorem usual_cryptoDelete {op : CryptoDelete} :
    OnlyNames RequiredKey.Usual (r.cryptoDelete op) := by
  unfold cryptoDelete
  refine onlyNames_bind fun target ht => ?_
  refine onlyNames_bind fun beneficiary hb => onlyNames_pure ?_
  exact List.forall_mem_append.2
    ⟨usual_accountKey target ht, usual_receiverKey beneficiary hb⟩

theorem usual_fileAppend {op : FileAppend} :
    OnlyNames RequiredKey.Usual (r.fileAppend t op) := by
  unfold fileAppend
  split
  · exact onlyNames_pure (List.forall_mem_nil _)
  · exact onlyNames_bind fun _ _ => onlyNames_pure (usual_optionalWacl _)

theorem usual_contractAdmin {id : ContractId} :
    OnlyNames RequiredKey.Usual (r.contractAdmin id) := by
  intro keys hkeys
  obtain ⟨_, -, k, -, rfl⟩ := contractAdmin_eq_ok.1 hkeys
  exact List.forall_mem_singleton.2 rfl

theorem usual_contractUpdate {op : ContractUpdate} :
    OnlyNames RequiredKey.Usual (r.contractUpdate op) := by
  rw [contractUpdate_eq]
  refine onlyNames_bind fun present hp => onlyNames_pure ?_
  refine List.forall_mem_append.2 ⟨?_, usual_optionalKey _⟩
  split at hp
  · exact usual_contractAdmin present hp
  · cases hp
    exact List.forall_mem_nil _

theorem usual_contractDelete {op : ContractDelete} :
    OnlyNames RequiredKey.Usual (r.contractDelete op) := by
  unfold contractDelete
  refine onlyNames_bind fun present hp => ?_
  refine onlyNames_bind fun obtainer ho => onlyNames_pure ?_
  refine List.forall_mem_append.2 ⟨usual_contractAdmin present hp, ?_⟩
  refine onlyNames_whenSome (fun who _ => ?_) obtainer ho
  cases who with
  | account id => exact usual_receiverKey
  | contract id =>
      refine onlyNames_bind fun m _ => onlyNames_pure ?_
      split
      · exact usual_optionalKey _
      · exact List.forall_mem_nil _

theorem usual_topicCreate {op : TopicCreate} :
    OnlyNames RequiredKey.Usual (r.topicCreate op) := by
  unfold topicCreate
  refine onlyNames_bind fun renewal hr => onlyNames_pure ?_
  exact List.forall_mem_append.2
    ⟨usual_optionalKey _, usual_whenAccount renewal hr⟩

theorem usual_topicUpdate {op : TopicUpdate} :
    OnlyNames RequiredKey.Usual (r.topicUpdate op) := by
  unfold topicUpdate
  split
  · exact onlyNames_pure (List.forall_mem_nil _)
  · refine onlyNames_bind fun m _ => ?_
    refine onlyNames_bind fun renewal hr => onlyNames_pure ?_
    have hadmins := List.forall_mem_append.2
      ⟨usual_optionalKey m.adminKey, usual_optionalKey op.adminKey⟩
    exact List.forall_mem_append.2 ⟨hadmins, usual_whenAccount renewal hr⟩

theorem usual_tokenCreate {op : TokenCreate} :
    OnlyNames RequiredKey.Usual (r.tokenCreate op) := by
  unfold tokenCreate
  refine onlyNames_bind fun treasury ht => ?_
  refine onlyNames_bind fun renewal hr => ?_
  refine onlyNames_bind fun collectors hc => onlyNames_pure ?_
  have haccounts := List.forall_mem_append.2
    ⟨usual_accountKey treasury ht, usual_whenAccount renewal hr⟩
  have hadmin := List.forall_mem_append.2
    ⟨haccounts, usual_optionalKey op.adminKey⟩
  exact List.forall_mem_append.2 ⟨hadmin, usual_feeCollectors collectors hc⟩

theorem usual_tokenUpdate {op : TokenUpdate} :
    OnlyNames RequiredKey.Usual (r.tokenUpdate op) := by
  unfold tokenUpdate
  refine onlyNames_bind fun m _ => ?_
  cases m.adminKey with
  | none => exact onlyNames_pure (List.forall_mem_nil _)
  | some admin =>
      refine onlyNames_bind fun treasury ht => ?_
      refine onlyNames_bind fun renewal hr => onlyNames_pure ?_
      have haccounts := List.forall_mem_append.2
        ⟨usual_whenAccount treasury ht, usual_whenAccount renewal hr⟩
      have hrest := List.forall_mem_append.2
        ⟨haccounts, usual_optionalKey op.adminKey⟩
      exact List.forall_mem_cons.2 ⟨rfl, hrest⟩

theorem usual_tokenFeeScheduleUpdate {op : TokenFeeScheduleUpdate} :
    OnlyNames RequiredKey.Usual (r.tokenFeeScheduleUpdate op) := by
  unfold tokenFeeScheduleUpdate
  refine onlyNames_bind fun m _ => ?_
  cases m.feeScheduleKey with
  | none => exact onlyNames_pure (List.forall_mem_nil _)
  | some k =>
      refine onlyNames_bind fun collectors hc => onlyNames_pure ?_
      exact List.forall_mem_cons.2 ⟨rfl, usual_feeCollectors collectors hc⟩

-- ===================================================== all operations

/-- Every operation that does not drop the keys of a file names its keys
under the usual rule. -/
theorem usual_directKeys (h : t.body.dropsWacl = false) :
    OnlyNames RequiredKey.Usual (r.directKeys t) := by
  obtain ⟨id, body⟩ := t
  cases body with
  | cryptoCreate op =>
      refine onlyNames_pure ?_
      unfold cryptoCreate
      split
      · exact List.forall_mem_singleton.2 rfl
      · exact List.forall_mem_nil _
  | cryptoTransfer op => exact usual_cryptoTransfer
  | cryptoUpdate op => exact usual_cryptoUpdate
  | cryptoDelete op => exact usual_cryptoDelete
  | fileCreate op => exact onlyNames_pure (usual_optionalWacl _)
  | fileAppend op => exact usual_fileAppend
  | fileUpdate op => cases h
  | fileDelete op => cases h
  | contractCreate op => exact onlyNames_pure (usual_optionalKey _)
  | contractUpdate op => exact usual_contractUpdate
  | contractDelete op => exact usual_contractDelete
  | topicCreate op => exact usual_topicCreate
  | topicUpdate op => exact usual_topicUpdate
  | topicDelete op => exact usual_optionalOf _
  | submitMessage op => exact usual_optionalOf _
  | tokenCreate op => exact usual_tokenCreate
  | tokenUpdate op => exact usual_tokenUpdate
  | tokenDelete op => exact usual_optionalOf _
  | tokenFreeze op => exact usual_optionalOf _
  | tokenUnfreeze op => exact usual_optionalOf _
  | tokenGrantKyc op => exact usual_optionalOf _
  | tokenRevokeKyc op => exact usual_optionalOf _
  | tokenWipe op => exact usual_optionalOf _
  | tokenMint op => exact usual_optionalOf _
  | tokenBurn op => exact usual_optionalOf _
  | tokenAssociate op => exact usual_accountKey
  | tokenDissociate op => exact usual_accountKey
  | tokenFeeScheduleUpdate op => exact usual_tokenFeeScheduleUpdate
  | scheduleDelete op => exact usual_optionalOf _
  | contractCall _ => exact onlyNames_pure (List.forall_mem_nil _)
  | scheduleCreate _ _ => exact onlyNames_pure (List.forall_mem_nil _)
  | scheduleSign _ => exact onlyNames_pure (List.forall_mem_nil _)
  | systemDelete _ => exact onlyNames_pure (List.forall_mem_nil _)
  | systemUndelete _ => exact onlyNames_pure (List.forall_mem_nil _)
  | freeze _ => exact onlyNames_pure (List.forall_mem_nil _)

/-- The deletion of a file names its present keys, if it has any, under the
rule that relaxes just these. -/
theorem fileDelete_eq_ok {op : FileDelete} {keys : List RequiredKey} :
    r.fileDelete op = .ok keys
      ↔ ∃ m : FileMeta, r.lookup .file op.file = .ok m
        ∧ optionalWacl m.wacl .topLevelFile = keys := by
  unfold fileDelete
  rw [bind_eq_ok]
  exact exists_congr fun m => and_congr findFor_eq_ok pure_eq_ok

/-- A scope changes no rule. -/
theorem activation_of_mem_inScope {scope : Scope} {named : List RequiredKey}
    (h : ∀ k ∈ named, k.Usual) :
    ∀ o ∈ named.map (OrderedKey.inScope scope), o.activation = .standard := by
  intro o ho
  obtain ⟨k, hk, rfl⟩ := List.mem_map.1 ho
  exact h k hk

/-- An operation on a schedule names its own keys under the usual rule. -/
theorem activation_of_mem_ownKeys {own : List OrderedKey}
    (h : r.ownKeys t = .ok own) : ∀ o ∈ own, o.activation = .standard := by
  unfold ownKeys at h
  split at h
  next scheduled terms _ =>
    obtain ⟨designated, hd, h⟩ := bind_eq_ok.1 h
    cases pure_eq_ok.1 h
    exact activation_of_mem_inScope (List.forall_mem_append.2
      ⟨usual_optionalKey _, usual_whenAccount designated hd⟩)
  next op _ =>
    obtain ⟨m, -, h⟩ := bind_eq_ok.1 h
    obtain ⟨designated, hd, h⟩ := bind_eq_ok.1 h
    cases pure_eq_ok.1 h
    exact activation_of_mem_inScope (usual_whenAccount designated hd)
  next =>
    cases h
    exact List.forall_mem_nil _

end Resolver

end SigningOrder
