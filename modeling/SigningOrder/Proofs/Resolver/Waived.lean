/-
What the policy for system entities can waive. Two resolvers with one lookup
are run on one transaction: one waives what a configuration allows
(`Resolver.ofConfig`), the other nothing (`Resolver.waivingNothing`). The
comparison has two cases (`agree_or_waived`). Either both name the same keys
or stop at the same failure; or the policy authorizes what takes effect, and
then it drops keys of the entity that is changed and nothing else. The keys
that an operation on a schedule names for itself are out of its reach. One of
them is the key of the account that the schedule names to pay, so a schedule
makes nobody the payer of a privileged change without a signature.
-/
import SigningOrder.Proofs.Order.Dedup
import SigningOrder.Proofs.Policy.Privileged
import SigningOrder.Proofs.Resolver.Rule
import SigningOrder.Sample.Ledger

namespace SigningOrder

/-- The scope in which the account that a schedule names to pay signs: where
the schedule is created, that of the transaction that creates it, and where
it is signed, that of the transaction in it. -/
def Transaction.designationScope (t : Transaction) : Scope :=
  match t.body with
  | .scheduleSign _ => .scheduled
  | _ => t.id.scope

/-- Two sets of waivers treat the keys of an operation alike. -/
structure Waivers.Agree (w w' : Waivers) (t : Transaction) : Prop where
  appendedFile : w.appendedFile t = w'.appendedFile t
  targetFile : w.targetFile t = w'.targetFile t
  newFile : w.newFile t = w'.newFile t
  targetAccount : w.targetAccount t = w'.targetAccount t
  newAccount : w.newAccount t = w'.newAccount t

/-- What waivers say of the keys of an operation. -/
structure Waivers.Answers where
  appendedFile : Bool
  targetFile : Bool
  newFile : Bool
  targetAccount : Bool
  newAccount : Bool

/-- What waivers say of the keys of the operation of a transaction. -/
def Waivers.answers (w : Waivers) (t : Transaction) : Answers :=
  ⟨w.appendedFile t, w.targetFile t, w.newFile t, w.targetAccount t,
    w.newAccount t⟩

/-- A key is asked for in a scope, under the usual rule. -/
def OrderedKey.AskedIn (order : List OrderedKey) (scope : Scope) (key : Key) :
    Prop :=
  ∃ o ∈ order, o.identity = (scope, key.canonical) ∧ o.activation = .standard

namespace Resolver

/-- A resolver that waives nothing. -/
def waivingNothing (lookup : Lookup) : Resolver :=
  ⟨lookup, .nothing⟩

variable {config : SigningConfig} {lookup : Lookup} {t : Transaction}

-- ============================================================ own keys

/-- No waiver bears on the keys that an operation on a schedule names for
itself. -/
theorem ownKeys_ofConfig (lookup : Lookup) (config : SigningConfig)
    (t : Transaction) :
    (ofConfig lookup config).ownKeys t = (waivingNothing lookup).ownKeys t :=
  rfl

/-- The account that a schedule names to pay is asked for its key. -/
theorem designated_mem_ownKeys {r : Resolver} {own : List OrderedKey}
    {id : AccountId} (hd : r.lookup.designated? t = some id)
    (h : r.ownKeys t = .ok own) :
    ∃ m : AccountMeta, r.lookup .account id = .ok m
      ∧ ⟨m.key, t.designationScope, .standard⟩ ∈ own := by
  obtain ⟨tid, body⟩ := t
  cases body with
  | scheduleCreate scheduled terms =>
      have hpayer : terms.payer = some id := hd
      obtain ⟨designated, hnamed, h⟩ := bind_eq_ok.1 h
      rw [hpayer] at hnamed
      obtain ⟨m, hm, rfl⟩ := accountKey_eq_ok.1 hnamed
      rw [← pure_eq_ok.1 h]
      have hmem : RequiredKey.ofKey m.key
          ∈ optionalKey terms.adminKey ++ [.ofKey m.key] :=
        List.mem_append_right _ List.mem_cons_self
      exact ⟨m, hm, List.mem_map_of_mem hmem⟩
  | scheduleSign op =>
      obtain ⟨s, hs, h⟩ := bind_eq_ok.1 h
      obtain ⟨designated, hnamed, h⟩ := bind_eq_ok.1 h
      have hstored : r.lookup .schedule op.schedule = .ok s :=
        findFor_eq_ok.1 hs
      have hpayer : s.designatedPayer = some id := by
        unfold Lookup.designated? at hd
        dsimp only at hd
        rw [hstored] at hd
        exact hd
      rw [hpayer] at hnamed
      obtain ⟨m, hm, rfl⟩ := accountKey_eq_ok.1 hnamed
      rw [← pure_eq_ok.1 h]
      exact ⟨m, hm, List.mem_cons_self⟩
  | _ => cases hd

/-- A key that is collected is asked for, if all are under the usual rule. -/
theorem askedIn_dedup {keys : List OrderedKey} {scope : Scope} {key : Key}
    (hkeys : ∀ o ∈ keys, o.activation = .standard)
    (hmem : ⟨key, scope, .standard⟩ ∈ keys) :
    OrderedKey.AskedIn (OrderedKey.dedup keys) scope key := by
  obtain ⟨o, ho, hid⟩ := List.mem_map.1 (OrderedKey.identity_mem_dedup hmem)
  exact ⟨o, ho, hid, hkeys o (OrderedKey.mem_of_mem_dedup ho)⟩

/-- Own keys come first, so whatever is collected behind them, they are
asked for. -/
theorem askedIn_dedup_append {own : List OrderedKey} {scope : Scope}
    {key : Key} (hown : ∀ o ∈ own, o.activation = .standard)
    (hmem : ⟨key, scope, .standard⟩ ∈ own) (back : List OrderedKey) :
    OrderedKey.AskedIn (OrderedKey.dedup (own ++ back)) scope key := by
  obtain ⟨o, ho, hasked⟩ := askedIn_dedup hown hmem
  exact ⟨o, (OrderedKey.dedup_sublist_append own back).subset ho, hasked⟩

-- ================================================= what the policy drops

/-- The keys of an operation are decided by its body, by the lookup and by
what the waivers say of it. -/
theorem directKeys_of_answers {w w' : Waivers} {t' : Transaction}
    (hbody : t.body = t'.body) (h : w.answers t = w'.answers t') :
    directKeys ⟨lookup, w⟩ t = directKeys ⟨lookup, w'⟩ t' := by
  obtain ⟨id, body⟩ := t
  obtain ⟨id', body'⟩ := t'
  obtain rfl : body = body' := hbody
  cases body with
  | cryptoUpdate op =>
      have htarget : w.targetAccount ⟨id, .cryptoUpdate op⟩
          = w'.targetAccount ⟨id', .cryptoUpdate op⟩ :=
        congrArg Waivers.Answers.targetAccount h
      have hnew : w.newAccount ⟨id, .cryptoUpdate op⟩
          = w'.newAccount ⟨id', .cryptoUpdate op⟩ :=
        congrArg Waivers.Answers.newAccount h
      show cryptoUpdate ⟨lookup, w⟩ _ op = cryptoUpdate ⟨lookup, w'⟩ _ op
      rw [cryptoUpdate_eq, cryptoUpdate_eq]
      dsimp only
      rw [htarget, hnew]
      rfl
  | fileAppend op =>
      have happended : w.appendedFile ⟨id, .fileAppend op⟩
          = w'.appendedFile ⟨id', .fileAppend op⟩ :=
        congrArg Waivers.Answers.appendedFile h
      show fileAppend ⟨lookup, w⟩ _ op = fileAppend ⟨lookup, w'⟩ _ op
      unfold fileAppend
      dsimp only
      rw [happended]
      rfl
  | fileUpdate op =>
      have htarget : w.targetFile ⟨id, .fileUpdate op⟩
          = w'.targetFile ⟨id', .fileUpdate op⟩ :=
        congrArg Waivers.Answers.targetFile h
      have hnew : w.newFile ⟨id, .fileUpdate op⟩
          = w'.newFile ⟨id', .fileUpdate op⟩ :=
        congrArg Waivers.Answers.newFile h
      show fileUpdate ⟨lookup, w⟩ _ op = fileUpdate ⟨lookup, w'⟩ _ op
      unfold fileUpdate newFileKeys
      dsimp only
      rw [htarget, hnew]
      rfl
  | _ => rfl

/-- No other waiver bears on the keys of an operation. -/
theorem directKeys_congr {w w' : Waivers} (h : w.Agree w' t) :
    directKeys ⟨lookup, w⟩ t = directKeys ⟨lookup, w'⟩ t := by
  refine directKeys_of_answers rfl ?_
  unfold Waivers.answers
  rw [h.appendedFile, h.targetFile, h.newFile, h.targetAccount, h.newAccount]

/-- Where the policy does not authorize a transaction, it waives none of the
keys of its operation. -/
theorem agree_of_unauthorized
    (h : (config.entities.check t).isAuthorized = false) :
    (Waivers.ofConfig config).Agree .nothing t := by
  obtain ⟨id, body⟩ := t
  cases body with
  | cryptoUpdate op =>
      have hnew : ((config.entities.check ⟨id, .cryptoUpdate op⟩).isAuthorized
          && !config.entities.isTreasury op.account) = false := by
        rw [h, Bool.false_and]
      exact ⟨rfl, rfl, rfl, h, hnew⟩
  | fileAppend op => exact ⟨h, rfl, rfl, rfl, rfl⟩
  | fileUpdate op => exact ⟨rfl, h, h, rfl, rfl⟩
  | _ => exact ⟨rfl, rfl, rfl, rfl, rfl⟩

/-- A key that may be there is one at most. -/
theorem length_optionalKey_le (key : Option Key) :
    (optionalKey key).length ≤ 1 := by
  cases key with
  | none => exact Nat.zero_le 1
  | some k => exact Nat.le_refl 1

/-- The update of an account that the policy authorizes takes the new key at
most, and the new key is what comes last without waivers. -/
theorem cryptoUpdate_of_authorized {id : TransactionId} {op : CryptoUpdate}
    (h : (config.entities.check ⟨id, .cryptoUpdate op⟩).isAuthorized = true) :
    ∃ back,
      (ofConfig lookup config).cryptoUpdate ⟨id, .cryptoUpdate op⟩ op = .ok back
      ∧ back.length ≤ 1
      ∧ ∀ full,
        (waivingNothing lookup).cryptoUpdate ⟨id, .cryptoUpdate op⟩ op
          = .ok full → ∃ waived, full = waived ++ back := by
  have htarget : (Waivers.ofConfig config).targetAccount
      ⟨id, .cryptoUpdate op⟩ = true := h
  refine ⟨if (Waivers.ofConfig config).newAccount ⟨id, .cryptoUpdate op⟩ then []
    else optionalKey op.key, ?_, ?_, fun full hfull => ?_⟩
  · rw [cryptoUpdate_eq, ofConfig]
    dsimp only
    rw [if_pos htarget]
    rfl
  · split
    · exact Nat.zero_le 1
    · exact length_optionalKey_le op.key
  · rw [cryptoUpdate_eq] at hfull
    obtain ⟨present, -, hfull⟩ := bind_eq_ok.1 hfull
    have hkeys : present ++ optionalKey op.key = full := pure_eq_ok.1 hfull
    rw [← hkeys]
    split
    · exact ⟨_, (List.append_nil _).symm⟩
    · exact ⟨present, rfl⟩

/-- Where the policy authorizes a transaction, its operation resolves and
names one key at most. Without waivers the same key comes last, and all that
comes before it is what was waived. -/
theorem directKeys_of_authorized (lookup : Lookup)
    (h : (config.entities.check t).isAuthorized = true) :
    ∃ back, (ofConfig lookup config).directKeys t = .ok back
      ∧ back.length ≤ 1
      ∧ ∀ full, (waivingNothing lookup).directKeys t = .ok full →
        ∃ waived, full = waived ++ back := by
  have hnone : ∀ full : List RequiredKey, ∃ waived, full = waived ++ [] :=
    fun full => ⟨full, (List.append_nil full).symm⟩
  obtain ⟨id, body⟩ := t
  cases body with
  | cryptoUpdate op => exact cryptoUpdate_of_authorized h
  | fileAppend op =>
      have hwaived : (Waivers.ofConfig config).appendedFile
          ⟨id, .fileAppend op⟩ = true := h
      refine ⟨[], ?_, Nat.zero_le 1, fun full _ => hnone full⟩
      show fileAppend _ _ op = _
      unfold fileAppend
      rw [ofConfig]
      dsimp only
      rw [if_pos hwaived]
      rfl
  | fileUpdate op =>
      have hwaived : (Waivers.ofConfig config).targetFile
          ⟨id, .fileUpdate op⟩ = true := h
      have hnew : (Waivers.ofConfig config).newFile
          ⟨id, .fileUpdate op⟩ = true := h
      refine ⟨[], ?_, Nat.zero_le 1, fun full _ => hnone full⟩
      show fileUpdate _ _ op = _
      unfold fileUpdate newFileKeys
      rw [ofConfig]
      dsimp only
      rw [if_pos hwaived, if_pos hnew]
      rfl
  | _ => cases h

-- ==================================================== two whole resolvers

/-- What the policy authorizes is run by a schedule, if one holds it. -/
theorem isSchedulable_of_authorized
    (h : (config.entities.check t).isAuthorized = true) :
    t.body.isSchedulable = true := by
  obtain ⟨id, body⟩ := t
  cases body <;> first | rfl | cases h

/-- The two resolvers collect the same or stop at the same failure, or the
policy authorizes what takes effect. Then the policy drops keys between the
own keys of the operation and one last key at most. -/
theorem agree_or_waived (config : SigningConfig) (lookup : Lookup)
    (t : Transaction) :
    (ofConfig lookup config).collectKeys t
        = (waivingNothing lookup).collectKeys t
      ∨ (config.entities.check (lookup.effective t)).isAuthorized = true
        ∧ ∃ own back, (ofConfig lookup config).ownKeys t = .ok own
          ∧ (ofConfig lookup config).collectKeys t = .ok (own ++ back)
          ∧ back.length ≤ 1
          ∧ ∀ full, (waivingNothing lookup).collectKeys t = .ok full →
            ∃ waived, full = own ++ waived ++ back := by
  by_cases hcheck : (config.entities.check (lookup.effective t)).isAuthorized
      = true
  · obtain ⟨direct, hdirect, hlength, hfull⟩ :=
      directKeys_of_authorized lookup hcheck
    have hschedulable : ∀ body, lookup.scheduled? t = some body →
        body.isSchedulable = true := by
      intro body hbody
      have h := isSchedulable_of_authorized hcheck
      rw [Lookup.effective_of_scheduled hbody] at h
      exact h
    have heffective := effectiveKeys_eq_ok.2
      ⟨hschedulable, direct, hdirect, rfl⟩
    cases hown : (ofConfig lookup config).ownKeys t with
    | error u =>
        -- the own keys fail first, and for both
        refine Or.inl ?_
        rw [collectKeys_eq, collectKeys_eq, ← ownKeys_ofConfig lookup config,
          hown]
        rfl
    | ok own =>
        refine Or.inr ⟨hcheck, own, _, rfl,
          collectKeys_eq_ok.2 ⟨own, hown, _, heffective, rfl⟩, ?_, ?_⟩
        · rw [List.length_map]
          exact hlength
        · intro full hcollect
          obtain ⟨own', hown', rest, hrest, rfl⟩ := collectKeys_eq_ok.1 hcollect
          obtain ⟨-, named, hnamed, rfl⟩ := effectiveKeys_eq_ok.1 hrest
          obtain ⟨waived, rfl⟩ := hfull named hnamed
          rw [← ownKeys_ofConfig lookup config, hown] at hown'
          cases hown'
          rw [List.map_append, ← List.append_assoc]
          exact ⟨_, rfl⟩
  · rw [Bool.not_eq_true] at hcheck
    refine Or.inl ?_
    have hdirect : (ofConfig lookup config).directKeys (lookup.effective t)
        = (waivingNothing lookup).directKeys (lookup.effective t) :=
      directKeys_congr (agree_of_unauthorized hcheck)
    have heffective : (ofConfig lookup config).effectiveKeys t
        = (waivingNothing lookup).effectiveKeys t :=
      effectiveKeys_congr rfl hdirect
    rw [collectKeys_eq, collectKeys_eq, ownKeys_ofConfig, heffective]

/-- The same two cases, for the orders. -/
theorem orders_agree_or_waived (config : SigningConfig) (lookup : Lookup)
    (t : Transaction) :
    (ofConfig lookup config).keysForOtherParties t
        = (waivingNothing lookup).keysForOtherParties t
      ∨ (config.entities.check (lookup.effective t)).isAuthorized = true
        ∧ ∃ own back, (ofConfig lookup config).ownKeys t = .ok own
          ∧ (ofConfig lookup config).keysForOtherParties t
            = .ok (OrderedKey.dedup (own ++ back))
          ∧ back.length ≤ 1
          ∧ ∀ plain, (waivingNothing lookup).keysForOtherParties t = .ok plain →
            ∃ waived, plain = OrderedKey.dedup (own ++ waived ++ back) := by
  rcases agree_or_waived config lookup t with
    heq | ⟨hcheck, own, back, hown, hcollect, hlength, hplain⟩
  · refine Or.inl ?_
    unfold keysForOtherParties
    rw [heq]
  · refine Or.inr ⟨hcheck, own, back, hown, ?_, hlength, fun plain h => ?_⟩
    · exact keysForOtherParties_eq_ok.2 ⟨_, hcollect, rfl⟩
    · obtain ⟨full, hfull, rfl⟩ := keysForOtherParties_eq_ok.1 h
      obtain ⟨waived, rfl⟩ := hplain full hfull
      exact ⟨waived, rfl⟩

/-- The policy only ever removes requirements, and only for privileged
payers. Whatever the configuration, the lookup and the transaction:

- where the policy resolver fails, the plain one fails the same;
- of two orders, that of the policy is a subsequence of the plain one, up to
  decodability within a scope;
- the outcomes differ only for privileged changes, by who pays for what
  takes effect;
- and if they do, and a schedule names that payer, then the payer's account
  looks up and its key is asked for in full, with the policy and without. -/
theorem waivers_privileged_only (config : SigningConfig) (lookup : Lookup)
    (t : Transaction) :
    (∀ f, (ofConfig lookup config).keysForOtherParties t = .error f →
        (waivingNothing lookup).keysForOtherParties t = .error f)
      ∧ (∀ policy plain,
        (ofConfig lookup config).keysForOtherParties t = .ok policy →
        (waivingNothing lookup).keysForOtherParties t = .ok plain →
        (policy.map OrderedKey.identity).Sublist
          (plain.map OrderedKey.identity))
      ∧ ((ofConfig lookup config).keysForOtherParties t
          ≠ (waivingNothing lookup).keysForOtherParties t →
        config.entities.Privileged (lookup.effective t))
      ∧ ((ofConfig lookup config).keysForOtherParties t
          ≠ (waivingNothing lookup).keysForOtherParties t →
        ∀ id, lookup.designated? t = some id →
          ∃ m : AccountMeta, lookup .account id = .ok m
            ∧ (∃ policy,
              (ofConfig lookup config).keysForOtherParties t = .ok policy
              ∧ OrderedKey.AskedIn policy t.designationScope m.key)
            ∧ ∀ plain,
              (waivingNothing lookup).keysForOtherParties t = .ok plain →
              OrderedKey.AskedIn plain t.designationScope m.key) := by
  rcases orders_agree_or_waived config lookup t with
    heq | ⟨hcheck, own, back, hown, hpolicy, hlength, hplain⟩
  · rw [heq]
    refine ⟨fun f h => h, fun policy plain hpolicy hplain => ?_,
      fun h => absurd rfl h, fun h => absurd rfl h⟩
    cases hpolicy.symm.trans hplain
    exact List.Sublist.refl _
  · refine ⟨fun f h => ?_, fun policy plain h hq => ?_, fun _ => ?_,
      fun _ id hd => ?_⟩
    · rw [hpolicy] at h
      cases h
    · cases hpolicy.symm.trans h
      obtain ⟨waived, rfl⟩ := hplain plain hq
      exact OrderedKey.dedup_omit_sublist own waived hlength
    · exact EntityNumbers.privileged_of_check hcheck
    · obtain ⟨m, hm, hmem⟩ := designated_mem_ownKeys hd hown
      have hstandard := activation_of_mem_ownKeys hown
      refine ⟨m, hm, ⟨_, hpolicy, ?_⟩, fun plain hq => ?_⟩
      · exact askedIn_dedup_append hstandard hmem back
      · obtain ⟨waived, rfl⟩ := hplain plain hq
        rw [List.append_assoc]
        exact askedIn_dedup_append hstandard hmem (waived ++ back)

-- ============================================ one account, one treasury

/-- A key that is to replace another. -/
def replacementKey : Key :=
  .leaf (.ed25519 [255])

/-- A ledger where every account has its key, and every schedule holds the
update of a system account with a new key, paid for by the system
administrator. -/
def numbered : Lookup :=
  (Sample.everyAccount false).withKind .schedule fun _ =>
    .ok ⟨none, some (.ofNum 50),
      .cryptoUpdate ⟨.ofNum 100, some replacementKey, none, none, none⟩⟩

/-- Signs a schedule. -/
def signUpdate : Transaction :=
  Sample.txn (.ofNum 1001) (.scheduleSign ⟨.ofNum 1800⟩)

/-- The update of a system account in a schedule: with the policy the
administrator who pays for it is all that must sign, and without it the
account and its new key must sign as well. -/
theorem waivers_privileged_only_signUpdate :
    (ofConfig numbered .usual).keysForOtherParties signUpdate
        = .ok [⟨Sample.keyOf (.ofNum 50), .scheduled, .standard⟩]
      ∧ (waivingNothing numbered).keysForOtherParties signUpdate
        = .ok [⟨Sample.keyOf (.ofNum 50), .scheduled, .standard⟩,
          ⟨Sample.keyOf (.ofNum 100), .scheduled, .standard⟩,
          ⟨replacementKey, .scheduled, .standard⟩]
      ∧ EntityNumbers.usual.Privileged (numbered.effective signUpdate) := by
  have hpolicy : (ofConfig numbered .usual).keysForOtherParties signUpdate
      = .ok [⟨Sample.keyOf (.ofNum 50), .scheduled, .standard⟩] := rfl
  have hplain : (waivingNothing numbered).keysForOtherParties signUpdate
      = .ok [⟨Sample.keyOf (.ofNum 50), .scheduled, .standard⟩,
        ⟨Sample.keyOf (.ofNum 100), .scheduled, .standard⟩,
        ⟨replacementKey, .scheduled, .standard⟩] := rfl
  refine ⟨hpolicy, hplain, ?_⟩
  refine (waivers_privileged_only .usual numbered signUpdate).2.2.1 ?_
  rw [hpolicy, hplain]
  exact fun h => absurd h (by simp)

/-- Numbers with the treasury outside of the reserved range. -/
def farTreasury : SigningConfig :=
  ⟨{ EntityNumbers.usual with reserved := 100, treasury := 5000 }, ⟨[]⟩⟩

/-- An update of such a treasury, by itself. -/
def updateTreasury : CryptoUpdate :=
  ⟨.ofNum 5000, none, none, none, some "memo"⟩

/-- The treasury may update itself wherever it is, so what the policy waives
is not only the keys of accounts in the reserved range. -/
theorem treasury_outside_range :
    (ofConfig numbered farTreasury).keysForOtherParties
          (Sample.txn (.ofNum 5000) (.cryptoUpdate updateTreasury)) = .ok []
      ∧ (waivingNothing numbered).keysForOtherParties
          (Sample.txn (.ofNum 5000) (.cryptoUpdate updateTreasury))
        = .ok [.outer (Sample.keyOf (.ofNum 5000))]
      ∧ farTreasury.entities.isSystemAccount updateTreasury.account = false :=
  ⟨rfl, rfl, rfl⟩

end Resolver

end SigningOrder
