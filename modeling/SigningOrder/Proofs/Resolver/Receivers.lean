/-
Receivers that must sign. An account or a contract says whether it must sign
for what it receives. One lookup is compared with another in which some of
them are set to sign and all else is the same (`Lookup.RaisedTo`): the second
run fails exactly where the first does, and of two orders the second asks for
every key of the first, and besides only for keys of those that were set.

Three steps look at the setting: who receives, who obtains what a deleted
contract holds, and who collects a fee. They are in step with a growing list
of keys (`Grown`), and every list that is put together from growing ones
grows. All other steps are equal in the two runs (`RaisedTo.accountKey_eq`,
`RaisedTo.contractAdmin_eq`), so most operations are too, and so are the keys
that an operation on a schedule has of its own.

The orders themselves need not grow in place. A key that is added may be one
that came later, and then the later one is dropped; only identities are kept.
-/
import SigningOrder.Proofs.Resolver.Scheduled

namespace SigningOrder

-- ===================================================== what is set to sign

/-- What bears on signing of an entity, before and after it is set to sign
for what it receives, or left as it is. -/
inductive Meta.Raised : (kind : EntityKind) → Meta kind → Meta kind → Prop
  | same {kind : EntityKind} (m : Meta kind) : Raised kind m m
  | account (key : Key) :
      Raised .account (⟨key, false⟩ : AccountMeta) (⟨key, true⟩ : AccountMeta)
  | contract (stored : Option Key) :
      Raised .contract (⟨stored, false⟩ : ContractMeta)
        (⟨stored, true⟩ : ContractMeta)

namespace Lookup

/-- A second lookup says the same as the first, except that some accounts and
contracts are set to sign for what they receive. -/
def RaisedTo (l l' : Lookup) : Prop :=
  ∀ kind id, InStep (Meta.Raised kind) (l kind id) (l' kind id)

/-- A key of an account, or of a contract that can sign, that was set to
sign. -/
inductive RaisedKey (l l' : Lookup) : Key → Prop
  | account {id : AccountId} {key : Key}
      (off : l .account id = .ok (⟨key, false⟩ : AccountMeta))
      (on : l' .account id = .ok (⟨key, true⟩ : AccountMeta)) :
      RaisedKey l l' key
  | contract {id : ContractId} {stored : Option Key} {key : Key}
      (off : l .contract id = .ok (⟨stored, false⟩ : ContractMeta))
      (on : l' .contract id = .ok (⟨stored, true⟩ : ContractMeta))
      (usable : Key.usable stored = some key) : RaisedKey l l' key

end Lookup

/-- Whether the keys of an operation depend on who must sign for what it
receives. -/
def Body.looksAtReceivers : Body → Bool
  | cryptoTransfer _ => true
  | cryptoDelete _ => true
  | contractDelete _ => true
  | tokenCreate _ => true
  | tokenFeeScheduleUpdate _ => true
  | _ => false

-- ========================================================== growing lists

/-- A list grows into another: nothing is lost, and what is added has a
property. -/
structure Grown {α : Type} (P : α → Prop) (keys keys' : List α) : Prop where
  kept : ∀ k ∈ keys, k ∈ keys'
  added : ∀ k ∈ keys', k ∈ keys ∨ P k

namespace Grown

variable {α β : Type} {P : α → Prop} {keys keys' more more' : List α}

theorem refl (keys : List α) : Grown P keys keys :=
  ⟨fun _ hk => hk, fun _ hk => Or.inl hk⟩

/-- Nothing grows into what has the property. -/
theorem of_nil (h : ∀ k ∈ keys', P k) : Grown P [] keys' :=
  ⟨fun _ hk => absurd hk List.not_mem_nil, fun k hk => Or.inr (h k hk)⟩

theorem append (h : Grown P keys keys') (hmore : Grown P more more') :
    Grown P (keys ++ more) (keys' ++ more') := by
  constructor
  · intro k hk
    rcases List.mem_append.1 hk with hk | hk
    · exact List.mem_append_left _ (h.kept k hk)
    · exact List.mem_append_right _ (hmore.kept k hk)
  · intro k hk
    rcases List.mem_append.1 hk with hk | hk
    · exact (h.added k hk).imp_left (List.mem_append_left _)
    · exact (hmore.added k hk).imp_left (List.mem_append_right _)

theorem cons (k : α) (h : Grown P keys keys') :
    Grown P (k :: keys) (k :: keys') :=
  (refl [k]).append h

/-- Mapped lists grow as the lists do. -/
theorem map {Q : β → Prop} {f : α → β} (hf : ∀ a, P a → Q (f a))
    (h : Grown P keys keys') : Grown Q (keys.map f) (keys'.map f) := by
  constructor
  · intro b hb
    obtain ⟨a, ha, rfl⟩ := List.mem_map.1 hb
    exact List.mem_map_of_mem (h.kept a ha)
  · intro b hb
    obtain ⟨a, ha, rfl⟩ := List.mem_map.1 hb
    exact (h.added a ha).imp List.mem_map_of_mem (hf a)

end Grown

namespace OrderedKey

/-- An order grows into another: every key of it is asked for again, in the
same scope and up to decodability, and any other has a property. -/
structure OrderGrown (P : OrderedKey → Prop) (order order' : List OrderedKey) :
    Prop where
  kept : ∀ o ∈ order, ∃ o' ∈ order', o'.identity = o.identity
  added : ∀ o' ∈ order', (∀ o ∈ order, o.identity ≠ o'.identity) → P o'

/-- The orders grow as the keys do that they are made of. -/
theorem orderGrown_dedup {P : OrderedKey → Prop} {keys keys' : List OrderedKey}
    (h : Grown P keys keys') : OrderGrown P (dedup keys) (dedup keys') := by
  constructor
  · intro o ho
    have hmem := h.kept o (mem_of_mem_dedup ho)
    exact List.mem_map.1 (identity_mem_dedup hmem)
  · intro o' ho' hnew
    refine (h.added o' (mem_of_mem_dedup ho')).resolve_left fun hmem => ?_
    obtain ⟨o, ho, heq⟩ := List.mem_map.1 (identity_mem_dedup hmem)
    exact hnew o ho heq

end OrderedKey

namespace Resolver

variable {l l' : Lookup} {w : Waivers} {t : Transaction}

/-- Two outcomes are in step, and the keys of the second are those of the
first and keys of what was set to sign. -/
abbrev Adds (l l' : Lookup) (x y : Except Unresolved (List RequiredKey)) :
    Prop :=
  InStep (Grown fun k => l.RaisedKey l' k.key) x y

/-- An outcome adds nothing to itself. -/
theorem adds_refl (x : Except Unresolved (List RequiredKey)) :
    Adds l l' x x :=
  .refl .refl x

/-- What is added for each of several values is added for all of them. -/
theorem adds_forEach {α : Type}
    {f g : α → Except Unresolved (List RequiredKey)}
    (h : ∀ a, Adds l l' (f a) (g a)) (as : List α) :
    Adds l l' (forEach f as) (forEach g as) := by
  induction as with
  | nil => exact adds_refl _
  | cons a as ih =>
      refine (h a).bind fun first first' _ _ hfirst => ?_
      refine ih.bind fun rest rest' _ _ hrest => ?_
      exact .pure (hfirst.append hrest)

end Resolver

namespace Lookup

namespace RaisedTo

open Resolver

variable {l l' : Lookup} {w : Waivers} {t : Transaction} (h : l.RaisedTo l')

include h

-- ============================================== steps that do not look at it

/-- Only accounts and contracts can be set to sign. -/
theorem lookup_eq {kind : EntityKind} (haccount : kind ≠ .account)
    (hcontract : kind ≠ .contract) (id : EntityId kind) :
    l kind id = l' kind id := by
  have hid := h kind id
  generalize l kind id = x at hid ⊢
  generalize l' kind id = y at hid ⊢
  cases hid with
  | error e => rfl
  | ok hm =>
      cases hm with
      | same m => rfl
      | account key => exact absurd rfl haccount
      | contract stored => exact absurd rfl hcontract

theorem find_eq {kind : EntityKind} (haccount : kind ≠ .account)
    (hcontract : kind ≠ .contract) :
    find ⟨l, w⟩ kind = find ⟨l', w⟩ kind := by
  funext id
  unfold find findFor
  dsimp only
  rw [h.lookup_eq haccount hcontract]

/-- An entity that plays a role is found in both runs or missed in both. -/
theorem inStep_findFor (role : FailureReason) (kind : EntityKind)
    (id : EntityId kind) :
    InStep (Meta.Raised kind) (findFor ⟨l, w⟩ role kind id)
      (findFor ⟨l', w⟩ role kind id) := by
  have hid := h kind id
  unfold findFor
  dsimp only
  generalize l kind id = x at hid ⊢
  generalize l' kind id = y at hid ⊢
  cases hid with
  | error e => exact .error _
  | ok hm => exact .ok hm

/-- What does not depend on the setting is the same in both runs. -/
theorem bind_findFor_eq {β : Type} {kind : EntityKind}
    {f : Meta kind → Except Unresolved β}
    (hf : ∀ m m', Meta.Raised kind m m' → f m = f m') (role : FailureReason)
    (id : EntityId kind) :
    (findFor ⟨l, w⟩ role kind id >>= f)
      = (findFor ⟨l', w⟩ role kind id >>= f) := by
  refine ((h.inStep_findFor role kind id).bind fun m m' _ _ hm => ?_).eq
  rw [hf m m' hm]
  exact .refl (fun _ => rfl) _

/-- The key of an account is the same, whether or not it was set to sign. -/
theorem accountKey_eq (role : FailureReason) :
    accountKey ⟨l, w⟩ role = accountKey ⟨l', w⟩ role := by
  funext id
  refine h.bind_findFor_eq (fun m m' hm => ?_) role id
  cases hm <;> rfl

/-- So is the admin key of a contract. -/
theorem contractAdmin_eq :
    contractAdmin ⟨l, w⟩ = contractAdmin ⟨l', w⟩ := by
  funext id
  refine h.bind_findFor_eq (fun m m' hm => ?_) _ id
  cases hm <;> rfl

-- ==================================================== steps that look at it

theorem adds_receiverKey (id : AccountId) :
    Adds l l' (receiverKey ⟨l, w⟩ id) (receiverKey ⟨l', w⟩ id) := by
  refine (h.inStep_findFor _ .account id).bind fun m m' hm hm' hraised => ?_
  rw [findFor_eq_ok] at hm hm'
  cases hraised with
  | same m => exact adds_refl _
  | account key =>
      exact .pure (.of_nil (List.forall_mem_singleton.2 (.account hm hm')))

theorem adds_obtainerKey (who : Obtainer) :
    Adds l l' (obtainerKey ⟨l, w⟩ who) (obtainerKey ⟨l', w⟩ who) := by
  cases who with
  | account id => exact h.adds_receiverKey id
  | contract id =>
      refine (h.inStep_findFor _ .contract id).bind fun m m' hm hm' hraised => ?_
      rw [findFor_eq_ok] at hm hm'
      cases hraised with
      | same m => exact adds_refl _
      | contract stored =>
          refine .pure (.of_nil ?_)
          exact forall_mem_optionalKey fun key hkey => .contract hm hm' hkey

/-- Who collects a fee in the token itself signs in both runs, set or not. -/
theorem adds_collectorKey (own : TokenId → Bool) (fee : CustomFee) :
    Adds l l' (collectorKey ⟨l, w⟩ own fee) (collectorKey ⟨l', w⟩ own fee) := by
  refine (h.inStep_findFor _ .account fee.collector).bind
    fun m m' hm hm' hraised => ?_
  rw [findFor_eq_ok] at hm hm'
  cases hraised with
  | same m => exact adds_refl _
  | account key =>
      cases fee.kind.inOwnToken own with
      | true => exact adds_refl _
      | false =>
          exact .pure (.of_nil (List.forall_mem_singleton.2 (.account hm hm')))

-- ========================================================== the operations

theorem adds_cryptoTransfer (op : CryptoTransfer) :
    Adds l l' (cryptoTransfer ⟨l, w⟩ op) (cryptoTransfer ⟨l', w⟩ op) := by
  unfold cryptoTransfer
  rw [h.accountKey_eq]
  refine .bind_same fun senders _ => ?_
  refine (adds_forEach h.adds_receiverKey op.credited).bind
    fun receivers receivers' _ _ hreceivers => ?_
  exact .pure (.append (.refl senders) hreceivers)

theorem adds_cryptoDelete (op : CryptoDelete) :
    Adds l l' (cryptoDelete ⟨l, w⟩ op) (cryptoDelete ⟨l', w⟩ op) := by
  unfold cryptoDelete
  rw [h.accountKey_eq]
  refine .bind_same fun target _ => ?_
  refine (h.adds_receiverKey op.transferAccount).bind
    fun beneficiary beneficiary' _ _ hbeneficiary => ?_
  exact .pure (.append (.refl target) hbeneficiary)

theorem adds_contractDelete (op : ContractDelete) :
    Adds l l' (contractDelete ⟨l, w⟩ op) (contractDelete ⟨l', w⟩ op) := by
  have hobtainer : Adds l l' (whenSome op.obtainer (obtainerKey ⟨l, w⟩))
      (whenSome op.obtainer (obtainerKey ⟨l', w⟩)) := by
    cases op.obtainer with
    | none => exact adds_refl _
    | some who => exact h.adds_obtainerKey who
  unfold contractDelete
  rw [h.contractAdmin_eq]
  refine .bind_same fun present _ => ?_
  refine hobtainer.bind fun obtainer obtainer' _ _ hobtainer => ?_
  exact .pure (.append (.refl present) hobtainer)

theorem adds_feeCollectors (own : TokenId → Bool) (fees : List CustomFee) :
    Adds l l' (feeCollectors ⟨l, w⟩ own fees)
      (feeCollectors ⟨l', w⟩ own fees) :=
  adds_forEach (h.adds_collectorKey own) fees

theorem adds_tokenCreate (op : TokenCreate) :
    Adds l l' (tokenCreate ⟨l, w⟩ op) (tokenCreate ⟨l', w⟩ op) := by
  unfold tokenCreate
  rw [h.accountKey_eq, h.accountKey_eq]
  refine .bind_same fun treasury _ => ?_
  refine .bind_same fun renewal _ => ?_
  refine (h.adds_feeCollectors _ op.customFees).bind
    fun collectors collectors' _ _ hcollectors => ?_
  exact .pure (.append (.refl _) hcollectors)

theorem adds_tokenFeeScheduleUpdate (op : TokenFeeScheduleUpdate) :
    Adds l l' (tokenFeeScheduleUpdate ⟨l, w⟩ op)
      (tokenFeeScheduleUpdate ⟨l', w⟩ op) := by
  unfold tokenFeeScheduleUpdate
  rw [h.find_eq (by decide) (by decide)]
  refine .bind_same fun m _ => ?_
  cases m.feeScheduleKey with
  | none => exact adds_refl _
  | some k =>
      refine (h.adds_feeCollectors _ op.customFees).bind
        fun collectors collectors' _ _ hcollectors => ?_
      exact .pure (hcollectors.cons _)

/-- An operation whose keys do not depend on who must sign what it receives
names the same keys in both runs. -/
theorem directKeys_eq (hbody : t.body.looksAtReceivers = false) :
    directKeys ⟨l, w⟩ t = directKeys ⟨l', w⟩ t := by
  obtain ⟨id, body⟩ := t
  have haccount := fun role => h.accountKey_eq (w := w) role
  have hadmin := h.contractAdmin_eq (w := w)
  have hfile : find ⟨l, w⟩ .file = find ⟨l', w⟩ .file :=
    h.find_eq (by decide) (by decide)
  have htopic : find ⟨l, w⟩ .topic = find ⟨l', w⟩ .topic :=
    h.find_eq (by decide) (by decide)
  have htoken : find ⟨l, w⟩ .token = find ⟨l', w⟩ .token :=
    h.find_eq (by decide) (by decide)
  have hschedule : find ⟨l, w⟩ .schedule = find ⟨l', w⟩ .schedule :=
    h.find_eq (by decide) (by decide)
  cases body with
  | cryptoUpdate op => simp only [directKeys, cryptoUpdate, haccount]
  | fileAppend op => simp only [directKeys, fileAppend, hfile]
  | fileUpdate op => simp only [directKeys, fileUpdate, newFileKeys, hfile]
  | fileDelete op => simp only [directKeys, fileDelete, hfile]
  | contractUpdate op => simp only [directKeys, contractUpdate, hadmin]
  | topicCreate op => simp only [directKeys, topicCreate, haccount]
  | topicUpdate op => simp only [directKeys, topicUpdate, haccount, htopic]
  | topicDelete op => simp only [directKeys, topicDelete, htopic]
  | submitMessage op => simp only [directKeys, submitMessage, htopic]
  | tokenUpdate op => simp only [directKeys, tokenUpdate, haccount, htoken]
  | tokenDelete op => simp only [directKeys, tokenRole, htoken]
  | tokenFreeze op => simp only [directKeys, tokenRole, htoken]
  | tokenUnfreeze op => simp only [directKeys, tokenRole, htoken]
  | tokenGrantKyc op => simp only [directKeys, tokenRole, htoken]
  | tokenRevokeKyc op => simp only [directKeys, tokenRole, htoken]
  | tokenWipe op => simp only [directKeys, tokenRole, htoken]
  | tokenMint op => simp only [directKeys, tokenRole, htoken]
  | tokenBurn op => simp only [directKeys, tokenRole, htoken]
  | tokenAssociate op => simp only [directKeys, tokenAssociation, haccount]
  | tokenDissociate op => simp only [directKeys, tokenAssociation, haccount]
  | scheduleDelete op => simp only [directKeys, hschedule]
  | _ => first | rfl | cases hbody

/-- Any operation names the keys of the first run in the second, and besides
only keys of what was set to sign. -/
theorem adds_directKeys (t : Transaction) :
    Adds l l' (directKeys ⟨l, w⟩ t) (directKeys ⟨l', w⟩ t) := by
  by_cases hbody : t.body.looksAtReceivers = true
  · obtain ⟨id, body⟩ := t
    cases body with
    | cryptoTransfer op => exact h.adds_cryptoTransfer op
    | cryptoDelete op => exact h.adds_cryptoDelete op
    | contractDelete op => exact h.adds_contractDelete op
    | tokenCreate op => exact h.adds_tokenCreate op
    | tokenFeeScheduleUpdate op => exact h.adds_tokenFeeScheduleUpdate op
    | _ => cases hbody
  · rw [Bool.not_eq_true] at hbody
    rw [h.directKeys_eq hbody]
    exact adds_refl _

-- ====================================================== whole collections

/-- The account that a schedule names to pay is the same in both runs, and so
is the transaction in it. -/
theorem designated?_eq (t : Transaction) :
    l.designated? t = l'.designated? t := by
  have hschedule : l .schedule = l' .schedule :=
    funext (h.lookup_eq (by decide) (by decide))
  unfold designated?
  rw [hschedule]

theorem scheduled?_eq (t : Transaction) :
    l.scheduled? t = l'.scheduled? t := by
  have hschedule : l .schedule = l' .schedule :=
    funext (h.lookup_eq (by decide) (by decide))
  unfold scheduled?
  rw [hschedule]

theorem effective_eq (t : Transaction) : l.effective t = l'.effective t := by
  unfold effective effectivePayer
  rw [h.scheduled?_eq, h.designated?_eq]

theorem ownKeys_eq (t : Transaction) :
    ownKeys ⟨l, w⟩ t = ownKeys ⟨l', w⟩ t := by
  unfold ownKeys
  rw [h.accountKey_eq, h.find_eq (by decide) (by decide)]

/-- Collections are in step, and grow as the operations do. -/
theorem inStep_collectKeys (t : Transaction) :
    InStep (Grown fun o : OrderedKey => l.RaisedKey l' o.key)
      (collectKeys ⟨l, w⟩ t) (collectKeys ⟨l', w⟩ t) := by
  have heffective : InStep (Grown fun o : OrderedKey => l.RaisedKey l' o.key)
      (effectiveKeys ⟨l, w⟩ t) (effectiveKeys ⟨l', w⟩ t) := by
    refine inStep_effectiveKeys (R := Grown fun k => l.RaisedKey l' k.key)
      (h.scheduled?_eq t) ?_ fun _ _ hkeys => ?_
    · dsimp only
      rw [h.effective_eq]
      exact h.adds_directKeys _
    · dsimp only
      rw [h.effective_eq]
      exact hkeys.map fun _ hk => hk
  rw [collectKeys_eq, collectKeys_eq, h.ownKeys_eq]
  refine .bind_same fun own _ => ?_
  refine heffective.bind fun rest rest' _ _ hrest => ?_
  exact .pure (.append (.refl own) hrest)

end RaisedTo

end Lookup

namespace Resolver

-- ============================================================ whole orders

/-- Receivers that are set to sign only add requirements. Two runs, the second
with some accounts and contracts set to sign for what they receive, fail
alike; and of two orders the second asks for every key of the first, in the
same scope and up to decodability. Any other key that it asks for is that of
an account, or the admin key that can sign of a contract, that was set. -/
theorem receivers_only_add {l l' : Lookup} (h : l.RaisedTo l') (w : Waivers)
    (t : Transaction) :
    (∀ f, keysForOtherParties ⟨l, w⟩ t = .error f
        ↔ keysForOtherParties ⟨l', w⟩ t = .error f)
      ∧ ∀ order order', keysForOtherParties ⟨l, w⟩ t = .ok order →
        keysForOtherParties ⟨l', w⟩ t = .ok order' →
        (∀ o ∈ order, ∃ o' ∈ order', o'.identity = o.identity)
          ∧ ∀ o' ∈ order', (∀ o ∈ order, o.identity ≠ o'.identity) →
            l.RaisedKey l' o'.key := by
  have horders : InStep
      (OrderedKey.OrderGrown fun o => l.RaisedKey l' o.key)
      (keysForOtherParties ⟨l, w⟩ t) (keysForOtherParties ⟨l', w⟩ t) :=
    ((h.inStep_collectKeys t).map fun _ _ => OrderedKey.orderGrown_dedup).mapError
      (failureOf t)
  refine ⟨fun f => horders.eq_error_iff, fun order order' ho ho' => ?_⟩
  have hgrown := horders.related ho ho'
  exact ⟨hgrown.kept, hgrown.added⟩

/-- A ledger where account 50 signs for what it receives, or does not. Any
schedule holds the deletion of account 100 in favour of it. -/
def household (heirSigns : Bool) : Lookup :=
  (Lookup.empty.withKind .account fun id =>
    .ok ⟨Sample.keyOf id, id = .ofNum 50 && heirSigns⟩).withKind
      .schedule fun _ => .ok ⟨none, none, bequest⟩

theorem household_raised : (household false).RaisedTo (household true) := by
  intro kind id
  cases kind with
  | account =>
      by_cases hid : id = .ofNum 50
      · subst hid
        exact .ok (.account _)
      · have hsame : household false .account id
            = household true .account id := by
          show Except.ok
              (⟨Sample.keyOf id, id = .ofNum 50 && false⟩ : AccountMeta)
            = .ok ⟨Sample.keyOf id, id = .ofNum 50 && true⟩
          rw [decide_eq_false hid]
          rfl
        rw [hsame]
        exact .refl .same _
  | _ => exact .refl .same _

/-- Where the heir is set to sign, the deletion in the schedule asks for its
key behind that of the account that is deleted. -/
theorem receivers_only_add_heir :
    (household false).RaisedTo (household true)
      ∧ keysForOtherParties ⟨household false, .nothing⟩ (signSchedule 1800)
        = .ok [⟨Sample.keyOf (.ofNum 100), .scheduled, .standard⟩]
      ∧ keysForOtherParties ⟨household true, .nothing⟩ (signSchedule 1800)
        = .ok [⟨Sample.keyOf (.ofNum 100), .scheduled, .standard⟩,
          ⟨Sample.keyOf (.ofNum 50), .scheduled, .standard⟩]
      ∧ (household false).RaisedKey (household true)
          (Sample.keyOf (.ofNum 50)) := by
  have hoff : keysForOtherParties ⟨household false, .nothing⟩
      (signSchedule 1800)
      = .ok [⟨Sample.keyOf (.ofNum 100), .scheduled, .standard⟩] := rfl
  have hon : keysForOtherParties ⟨household true, .nothing⟩ (signSchedule 1800)
      = .ok [⟨Sample.keyOf (.ofNum 100), .scheduled, .standard⟩,
        ⟨Sample.keyOf (.ofNum 50), .scheduled, .standard⟩] := rfl
  refine ⟨household_raised, hoff, hon, ?_⟩
  have hadded := ((receivers_only_add household_raised .nothing
    (signSchedule 1800)).2 _ _ hoff hon).2
  refine hadded ⟨Sample.keyOf (.ofNum 50), .scheduled, .standard⟩
    (List.mem_cons_of_mem _ List.mem_cons_self) fun o ho heq => ?_
  rw [List.mem_singleton.1 ho] at heq
  exact absurd heq (by decide)

end Resolver

end SigningOrder
