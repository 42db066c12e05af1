/-
Who collects the fees of a token, and signs for it. A token is created with a
list of fees, and an update puts a new list in. Both name keys of their own and
then go through the collectors: one always signs if the fee is charged in the
token itself (`CustomFeeKind.SelfDenominated`), and otherwise if the account is
set to sign for what it receives.

Which token is meant by "the token itself" is all that differs. Where it is
created it has no identifier yet and goes by the sentinel; an update may use
either. So a fee of an update is the same fee of a creation, with the sentinel
in place of the token (`CustomFee.mapToken`), and its collector is asked in the
same way (`feeCollectors_asNew`). `collectors_sign_alike` says it of whole
resolutions.
-/
import SigningOrder.Proofs.Chain
import SigningOrder.Proofs.Resolver.Accounts

namespace SigningOrder

-- ==================================================== statement vocabulary

/-- A fee is charged in a token of a kind: a fraction of what is transferred,
an amount in such a token, or a royalty that falls back to one. -/
inductive CustomFeeKind.SelfDenominated (p : TokenId → Prop) :
    CustomFeeKind → Prop where
  | fractional (fee : FractionalFee) : SelfDenominated p (.fractional fee)
  | fixed {amount : UInt64} {token : TokenId} (h : p token) :
      SelfDenominated p (.fixed ⟨amount, some token⟩)
  | royalty {numerator denominator amount : UInt64} {token : TokenId}
      (h : p token) :
      SelfDenominated p
        (.royalty ⟨numerator, denominator, some ⟨amount, some token⟩⟩)

/-- The token that a creation knows by the sentinel. -/
def TokenId.asNew (token other : TokenId) : TokenId :=
  if other = token then .sentinel else other

/-- A fee with other tokens in place of those in which it is charged. -/
def FixedFee.mapToken (f : TokenId → TokenId) (fee : FixedFee) : FixedFee :=
  { fee with denominatingToken := fee.denominatingToken.map f }

@[inherit_doc FixedFee.mapToken]
def CustomFee.mapToken (f : TokenId → TokenId) (fee : CustomFee) : CustomFee :=
  { fee with
    kind := match fee.kind with
      | .fixed fixed => .fixed (fixed.mapToken f)
      | .fractional fractional => .fractional fractional
      | .royalty royalty =>
        .royalty
          { royalty with fallback := royalty.fallback.map (·.mapToken f) } }

namespace CustomFeeKind

variable {p : TokenId → Prop} {own : TokenId → Bool}

theorem inOwnToken_iff (hown : ∀ token, own token = true ↔ p token)
    {kind : CustomFeeKind} :
    kind.inOwnToken own = true ↔ kind.SelfDenominated p := by
  constructor
  · intro h
    cases kind with
    | fractional fee => exact .fractional fee
    | fixed fee =>
        obtain ⟨amount, _ | token⟩ := fee
        · cases h
        · exact .fixed ((hown token).1 h)
    | royalty fee =>
        obtain ⟨numerator, denominator, _ | ⟨amount, _ | token⟩⟩ := fee
        · cases h
        · cases h
        · exact .royalty ((hown token).1 h)
  · intro h
    cases h with
    | fractional fee => rfl
    | fixed h => exact (hown _).2 h
    | royalty h => exact (hown _).2 h

instance [DecidablePred p] : DecidablePred (SelfDenominated p) := fun kind =>
  decidable_of_iff (kind.inOwnToken fun token => p token)
    (inOwnToken_iff fun _ => decide_eq_true_iff)

end CustomFeeKind

namespace Lookup

/-- The keys of the collectors that sign: of fees in a token of a kind, and of
those who sign for whatever they receive. -/
def collectorKeys (l : Lookup) (p : TokenId → Prop) [DecidablePred p]
    (fees : List CustomFee) : List Key :=
  fees.filterMap fun fee => l.keyIf
    (fun m => fee.kind.SelfDenominated p ∨ m.receiverSigRequired = true)
    fee.collector

/-- The keys that come ahead of the collectors where a token is created: those
of its treasury, of the account that renews it and of its administration. -/
def IssuedBy (l : Lookup) (op : TokenCreate) (own : List Key) : Prop :=
  ∃ (treasury : AccountMeta) (renewal : Option AccountMeta),
    l .account op.treasury = .ok treasury
      ∧ op.autoRenewAccount.map (l .account) = renewal.map .ok
      ∧ own = treasury.key :: (renewal.map (·.key)).toList ++ op.adminKey.toList

/-- The key that comes ahead of the collectors where the fees of a token are
set. -/
def SetBy (l : Lookup) (op : TokenFeeScheduleUpdate) (own : List Key) : Prop :=
  ∃ (m : TokenMeta) (k : Key),
    l .token op.token = .ok m ∧ m.feeScheduleKey = some k ∧ own = [k]

end Lookup

/-- Behind keys of its own, a transaction collects those of the collectors of
fees. All collectors must be found, and it fails with the first that is not. -/
structure Resolver.CollectsBehind (r : Resolver) (t : Transaction)
    (own : List Key) (p : TokenId → Prop) [DecidablePred p]
    (fees : List CustomFee) : Prop where
  collected : ∀ keys, r.collectKeys t = .ok keys
    ↔ (∀ fee ∈ fees, r.lookup.Finds fee.collector)
      ∧ keys = (own ++ r.lookup.collectorKeys p fees).map fun k =>
        ⟨k, t.id.scope, .standard⟩
  failed : ∀ f, r.keysForOtherParties t = .error f
    ↔ ∃ id e, r.lookup.FirstMissing (fees.map (·.collector)) id e
      ∧ f = ⟨if e.reason? = some .missingAccount then .invalidFeeCollector
          else .generalError, some e.entity, t.id⟩

-- ============================================================ the collectors

theorem EntityId.isSentinel_iff {kind : EntityKind} {id : EntityId kind} :
    id.isSentinel = true ↔ id = .sentinel := by
  obtain ⟨shard, realm, num⟩ := id
  simp [isSentinel, sentinel, ofNum, and_assoc]

theorem TokenId.isSentinel_asNew (token other : TokenId) :
    (asNew token other).isSentinel = (other == token || other.isSentinel) := by
  unfold asNew
  by_cases h : other = token
  · rw [if_pos h, h]
    simp [EntityId.isSentinel_iff]
  · simp [h]

theorem TokenId.isOwn_iff {token other : TokenId} :
    (other == token || other.isSentinel) = true
      ↔ other = token ∨ other = .sentinel := by
  rw [Bool.or_eq_true, beq_iff_eq, EntityId.isSentinel_iff]

/-- A fee in other tokens is charged in the token itself if those are. -/
theorem CustomFee.inOwnToken_mapToken (f : TokenId → TokenId)
    (own : TokenId → Bool) (fee : CustomFee) :
    (fee.mapToken f).kind.inOwnToken own
      = fee.kind.inOwnToken fun token => own (f token) := by
  obtain ⟨collector, fixed | fractional | royalty⟩ := fee
  · obtain ⟨amount, _ | token⟩ := fixed <;> rfl
  · rfl
  · obtain ⟨numerator, denominator, _ | ⟨amount, _ | token⟩⟩ := royalty <;> rfl

theorem CustomFee.demands_eq (fees : List CustomFee) :
    demands fees
      = (fees.map (·.collector)).map (.entity .invalidFeeCollector) := by
  rw [List.map_map]
  rfl

namespace Resolver

variable {r : Resolver} {id : TransactionId} {p : TokenId → Prop}
  [DecidablePred p] {own : TokenId → Bool}

theorem feeCollectors_eq_ok (hown : ∀ token, own token = true ↔ p token)
    {fees : List CustomFee} {keys : List RequiredKey} :
    r.feeCollectors own fees = .ok keys
      ↔ (∀ fee ∈ fees, r.lookup.Finds fee.collector)
        ∧ (r.lookup.collectorKeys p fees).map .ofKey = keys := by
  have hsigns (fee : CustomFee) (m : AccountMeta) :
      (fee.kind.inOwnToken own || m.receiverSigRequired)
        = decide (fee.kind.SelfDenominated p ∨ m.receiverSigRequired = true) := by
    rw [Bool.eq_iff_iff, Bool.or_eq_true, decide_eq_true_iff,
      CustomFeeKind.inOwnToken_iff hown]
  unfold feeCollectors Lookup.collectorKeys
  rw [collectorKey_eq_askIf, forEach_askIf_eq_ok]
  simp only [hsigns]

/-- The collectors of an update are asked as those of a creation, with the
sentinel in place of the token. -/
theorem feeCollectors_asNew (r : Resolver) (token : TokenId)
    (fees : List CustomFee) :
    r.feeCollectors EntityId.isSentinel
        (fees.map (·.mapToken (TokenId.asNew token)))
      = r.feeCollectors (fun other => other == token || other.isSentinel)
        fees := by
  unfold feeCollectors
  induction fees with
  | nil => rfl
  | cons fee fees ih =>
      have hfee : r.collectorKey EntityId.isSentinel
            (fee.mapToken (TokenId.asNew token))
          = r.collectorKey (fun other => other == token || other.isSentinel)
            fee := by
        unfold collectorKey
        rw [CustomFee.inOwnToken_mapToken]
        simp only [TokenId.isSentinel_asNew]
        rfl
      rw [List.map_cons, forEach, forEach, hfee, ih]

-- ======================================================== what is collected

theorem whenSome_accountKey_of_found {role : FailureReason}
    {id? : Option AccountId} {found : Option AccountMeta}
    (h : id?.map (r.lookup .account) = found.map .ok) :
    whenSome id? (r.accountKey role)
      = .ok ((found.map (·.key)).toList.map .ofKey) := by
  cases id? with
  | none =>
      cases found with
      | none => rfl
      | some m => cases h
  | some id =>
      cases found with
      | none => cases h
      | some m => exact accountKey_eq_ok.2 ⟨m, Option.some.inj h, rfl⟩

/-- A creation names its own keys, and then its collectors. -/
theorem tokenCreate_of_issuedBy {op : TokenCreate} {keys : List Key}
    (h : r.lookup.IssuedBy op keys) :
    r.tokenCreate op
      = (r.feeCollectors EntityId.isSentinel op.customFees).map
        (keys.map .ofKey ++ ·) := by
  obtain ⟨treasury, renewal, htreasury, hrenewal, rfl⟩ := h
  have htreasury : r.accountKey .missingAccount op.treasury
      = .ok [.ofKey treasury.key] := accountKey_eq_ok.2 ⟨_, htreasury, rfl⟩
  have hadmin : optionalKey op.adminKey = op.adminKey.toList.map .ofKey := by
    cases op.adminKey <;> rfl
  unfold tokenCreate
  rw [htreasury, whenSome_accountKey_of_found hrenewal, hadmin]
  cases r.feeCollectors EntityId.isSentinel op.customFees with
  | error u => rfl
  | ok collectors =>
      show Except.ok _ = Except.ok _
      simp

/-- An update of the fees names its own key, and then its collectors. -/
theorem tokenFeeScheduleUpdate_of_setBy {op : TokenFeeScheduleUpdate}
    {keys : List Key} (h : r.lookup.SetBy op keys) :
    r.tokenFeeScheduleUpdate op
      = (r.feeCollectors (fun token => token == op.token || token.isSentinel)
          op.customFees).map (keys.map .ofKey ++ ·) := by
  obtain ⟨m, k, hm, hkey, rfl⟩ := h
  have hfound : r.find .token op.token = .ok m := findFor_eq_ok.2 hm
  unfold tokenFeeScheduleUpdate
  rw [hfound]
  dsimp only [bind, Except.bind]
  rw [hkey]
  cases r.feeCollectors (fun token => token == op.token || token.isSentinel)
    op.customFees <;> rfl

/-- Whatever is named ahead of the collectors is collected with them. -/
theorem collectKeys_of_collectors {t : Transaction} {keys : List Key}
    {fees : List CustomFee} (hruns : t.body.runsSchedule = false)
    (hdirect : r.directKeys t
      = (r.feeCollectors own fees).map (keys.map .ofKey ++ ·)) :
    r.collectKeys t
      = (r.feeCollectors own fees).map fun collectors =>
        (keys.map .ofKey ++ collectors).map (.inScope t.id.scope) := by
  rw [collectKeys_of_not_runsSchedule hruns, hdirect]
  cases r.feeCollectors own fees <;> rfl

/-- Where the collectors come last, in what is named and in what is asked for,
they are collected behind the keys of the transaction. -/
theorem collectsBehind {t : Transaction} {keys : List Key}
    {fees : List CustomFee} {met : List Demand}
    (hown : ∀ token, own token = true ↔ p token)
    (hruns : t.body.runsSchedule = false)
    (hdirect : r.directKeys t
      = (r.feeCollectors own fees).map (keys.map .ofKey ++ ·))
    (hdemands : r.demands t = met ++ CustomFee.demands fees)
    (hmet : ∀ d ∈ met, r.lookup.unmet d = none) :
    r.CollectsBehind t keys p fees := by
  refine ⟨fun collected => ?_, fun f => ?_⟩
  · rw [collectKeys_of_collectors hruns hdirect, ← map_inScope_ofKey,
      List.map_append]
    simp only [map_eq_ok, feeCollectors_eq_ok hown]
    constructor
    · rintro ⟨_, ⟨hfound, rfl⟩, rfl⟩
      exact ⟨hfound, rfl⟩
    · rintro ⟨hfound, rfl⟩
      exact ⟨_, ⟨hfound, rfl⟩, rfl⟩
  · rw [CustomFee.demands_eq, ← allDemands_of_not_runsSchedule hruns] at hdemands
    exact eq_error_of_accounts hdemands hmet

theorem collectsBehind_tokenCreate {op : TokenCreate} {keys : List Key}
    (h : r.lookup.IssuedBy op keys) :
    r.CollectsBehind ⟨id, .tokenCreate op⟩ keys (· = .sentinel)
      op.customFees := by
  refine collectsBehind (fun _ => EntityId.isSentinel_iff) rfl
    (tokenCreate_of_issuedBy h) (List.cons_append).symm ?_
  obtain ⟨treasury, renewal, htreasury, hrenewal, -⟩ := h
  rw [List.forall_mem_cons]
  refine ⟨Lookup.unmet_account_eq_none.2 ⟨treasury, htreasury⟩, fun d hd => ?_⟩
  obtain ⟨renewer, hrenewer, rfl⟩ := List.mem_map.1 hd
  rw [Option.mem_toList.1 hrenewer] at hrenewal
  cases renewal with
  | none => cases hrenewal
  | some m =>
      exact Lookup.unmet_account_eq_none.2 ⟨m, Option.some.inj hrenewal⟩

theorem collectsBehind_tokenFeeScheduleUpdate {op : TokenFeeScheduleUpdate}
    {keys : List Key} (h : r.lookup.SetBy op keys) :
    r.CollectsBehind ⟨id, .tokenFeeScheduleUpdate op⟩ keys
      (fun token => token = op.token ∨ token = .sentinel) op.customFees := by
  have hupdate := tokenFeeScheduleUpdate_of_setBy h
  obtain ⟨m, k, hm, hkey, -⟩ := h
  have hends : r.lookup.endsAtToken (.tokenFeeScheduleUpdate op) = false := by
    simp [Lookup.endsAtToken, hm, hkey]
  have hdemands : r.demands ⟨id, .tokenFeeScheduleUpdate op⟩
      = [.of op.token] ++ CustomFee.demands op.customFees := by
    rw [demands_eq_cons rfl rfl, hends]
    rfl
  refine collectsBehind (fun _ => TokenId.isOwn_iff) rfl hupdate hdemands
    fun d hd => ?_
  rw [List.mem_singleton.1 hd]
  simp [Lookup.unmet, Demand.of, hm]

/-- A creation whose keys are collected has found its own accounts. -/
theorem exists_issuedBy {op : TokenCreate} {keys : List OrderedKey}
    (h : r.collectKeys ⟨id, .tokenCreate op⟩ = .ok keys) :
    ∃ own, r.lookup.IssuedBy op own := by
  obtain ⟨direct, hdirect, -⟩ :=
    (collectKeys_eq_ok_of_not_runsSchedule rfl).1 h
  obtain ⟨_, htreasury, hrest⟩ := bind_eq_ok.1 hdirect
  obtain ⟨_, hrenewal, -⟩ := bind_eq_ok.1 hrest
  obtain ⟨treasury, htreasury, -⟩ := accountKey_eq_ok.1 htreasury
  cases hrenewer : op.autoRenewAccount with
  | none => exact ⟨_, treasury, none, htreasury, by rw [hrenewer]; rfl, rfl⟩
  | some renewer =>
      rw [hrenewer] at hrenewal
      obtain ⟨m, hm, -⟩ := accountKey_eq_ok.1 hrenewal
      refine ⟨_, treasury, some m, htreasury, ?_, rfl⟩
      rw [hrenewer]
      exact congrArg some hm

/-- Who collects fees signs alike where a token is created and where its fees
are set:

- both collect the keys of the collectors behind their own, in the order of the
  fees: of those who are charged for in the token itself, which a creation knows
  by the sentinel and an update by either name, and of those who sign for
  whatever they receive; every collector must be found, and the first that is
  not decides the failure;
- a creation collects nothing unless its own accounts are found;
- with the sentinel in place of the token, the fees of an update are those of a
  creation: the same collectors are named, or missed in the same way;
- and so are the two transactions, behind what each names by itself. -/
theorem collectors_sign_alike (r : Resolver) (id : TransactionId) :
    (∀ op own, r.lookup.IssuedBy op own →
        r.CollectsBehind ⟨id, .tokenCreate op⟩ own (· = .sentinel)
          op.customFees)
      ∧ (∀ op own, r.lookup.SetBy op own →
        r.CollectsBehind ⟨id, .tokenFeeScheduleUpdate op⟩ own
          (fun token => token = op.token ∨ token = .sentinel) op.customFees)
      ∧ (∀ op keys, r.collectKeys ⟨id, .tokenCreate op⟩ = .ok keys →
        ∃ own, r.lookup.IssuedBy op own)
      ∧ (∀ token fees,
        r.feeCollectors EntityId.isSentinel
            (fees.map (·.mapToken (TokenId.asNew token)))
          = r.feeCollectors (fun other => other == token || other.isSentinel)
            fees)
      ∧ ∀ creation update own own', r.lookup.IssuedBy creation own →
        r.lookup.SetBy update own' →
        creation.customFees
          = update.customFees.map (·.mapToken (TokenId.asNew update.token)) →
        InStep (fun created updated => ∃ collectors : List Key,
            created = (own ++ collectors).map (⟨·, id.scope, .standard⟩)
              ∧ updated = (own' ++ collectors).map (⟨·, id.scope, .standard⟩))
          (r.collectKeys ⟨id, .tokenCreate creation⟩)
          (r.collectKeys ⟨id, .tokenFeeScheduleUpdate update⟩) := by
  refine ⟨fun _ _ => collectsBehind_tokenCreate,
    fun _ _ => collectsBehind_tokenFeeScheduleUpdate,
    fun _ _ => exists_issuedBy, feeCollectors_asNew r, ?_⟩
  intro creation update own own' hissued hset hfees
  have hcreated : r.directKeys ⟨id, .tokenCreate creation⟩ = _ :=
    tokenCreate_of_issuedBy hissued
  have hupdated : r.directKeys ⟨id, .tokenFeeScheduleUpdate update⟩ = _ :=
    tokenFeeScheduleUpdate_of_setBy hset
  rw [hfees, feeCollectors_asNew] at hcreated
  rw [collectKeys_of_collectors rfl hcreated,
    collectKeys_of_collectors rfl hupdated]
  cases hasked : r.feeCollectors
      (fun other => other == update.token || other.isSentinel)
      update.customFees with
  | error u => exact .error u
  | ok collectors =>
      obtain ⟨-, rfl⟩ :=
        (feeCollectors_eq_ok fun _ => TokenId.isOwn_iff).1 hasked
      refine .ok ⟨r.lookup.collectorKeys
        (fun other => other = update.token ∨ other = .sentinel)
        update.customFees, ?_, ?_⟩
      · rw [← map_inScope_ofKey, List.map_append]
      · rw [← map_inScope_ofKey, List.map_append]

-- ============================================================== on a bourse

/-- The market with tokens, the fees of which one key sets. -/
def bourse : Resolver where
  lookup := market.lookup.withKind .token fun _ =>
    .ok ⟨.ofNum 98, none, none, none, none, none,
      some (Sample.keyOf (.ofNum 60))⟩
  waivers := .nothing

/-- Fees of token 2000. It is meant by the first, by the fourth, which uses the
sentinel, and by the last. -/
def tariff : List CustomFee :=
  [.ofFixed (.ofNum 150) 10 (some (.ofNum 2000)),
    .ofFixed (.ofNum 151) 10 (some (.ofNum 2001)),
    .ofFixed (.ofNum 7) 10 none,
    .ofRoyalty (.ofNum 152) 1 10 (some ⟨5, some .sentinel⟩),
    .ofRoyalty (.ofNum 153) 1 10 none,
    .ofFraction (.ofNum 154) 1 100]

/-- Fees one of which nobody could collect, and for which no key is needed. -/
def unclaimedTariff : List CustomFee :=
  [.ofFixed (.ofNum 151) 10 none, .ofFixed (.ofNum 404) 10 none]

/-- Puts fees of token 2000 in. -/
def setFees (fees : List CustomFee) : TokenFeeScheduleUpdate :=
  ⟨.ofNum 2000, fees⟩

/-- Creates a token with fees like these. -/
def listToken (fees : List CustomFee) : TokenCreate :=
  ⟨"", "", .ofNum 98, some (.ofNum 99), some (Sample.keyOf (.ofNum 97)), none,
    none, none, none, none,
    fees.map (·.mapToken (TokenId.asNew (.ofNum 2000))), false⟩

/-- Collectors 151 and 153 are charged for in something else and do not sign for
what they receive. One who does not exist is missed all the same. -/
theorem collectors_sign_alike_tariff :
    bourse.lookup.IssuedBy (listToken tariff)
        ([98, 99, 97].map fun n => Sample.keyOf (.ofNum n))
      ∧ bourse.lookup.SetBy (setFees tariff) [Sample.keyOf (.ofNum 60)]
      ∧ bourse.collectKeys (Sample.txn (.ofNum 1001)
          (.tokenCreate (listToken tariff)))
        = .ok ([98, 99, 97, 150, 7, 152, 154].map fun n =>
          ⟨Sample.keyOf (.ofNum n), .outer, .standard⟩)
      ∧ bourse.collectKeys (Sample.txn (.ofNum 1001)
          (.tokenFeeScheduleUpdate (setFees tariff)))
        = .ok ([60, 150, 7, 152, 154].map fun n =>
          ⟨Sample.keyOf (.ofNum n), .outer, .standard⟩)
      ∧ bourse.keysForOtherParties (Sample.txn (.ofNum 1001)
          (.tokenFeeScheduleUpdate (setFees unclaimedTariff)))
        = .error ⟨.invalidFeeCollector,
          some (EntityId.ref (.ofNum 404 : AccountId)),
          Sample.txnId (.ofNum 1001)⟩
      ∧ bourse.collectKeys (Sample.txn (.ofNum 1001)
          (.tokenCreate (listToken unclaimedTariff)))
        = .error ⟨.invalidFeeCollector,
          some (EntityId.ref (.ofNum 404 : AccountId))⟩ := by
  have hissued (fees : List CustomFee) : bourse.lookup.IssuedBy (listToken fees)
      ([98, 99, 97].map fun n => Sample.keyOf (.ofNum n)) :=
    ⟨_, some _, rfl, rfl, rfl⟩
  have hset (fees : List CustomFee) : bourse.lookup.SetBy (setFees fees)
      [Sample.keyOf (.ofNum 60)] := ⟨_, _, rfl, rfl, rfl⟩
  have hfinds {id : AccountId} (h : id.num < 400) : bourse.lookup.Finds id :=
    market_finds h
  have hfees : ∀ fee ∈ tariff, fee.collector.num < 400 := by decide
  have hlisted : ∀ fee ∈ (listToken tariff).customFees,
      fee.collector.num < 400 := by decide
  obtain ⟨hcreated, hupdated, -, -, hstep⟩ :=
    collectors_sign_alike bourse (Sample.txnId (.ofNum 1001))
  refine ⟨hissued tariff, hset tariff, ?_, ?_, ?_, ?_⟩
  · refine ((hcreated _ _ (hissued tariff)).collected _).2
      ⟨fun fee hfee => hfinds (hlisted fee hfee), ?_⟩
    decide
  · refine ((hupdated _ _ (hset tariff)).collected _).2
      ⟨fun fee hfee => hfinds (hfees fee hfee), ?_⟩
    decide
  · refine ((hupdated _ _ (hset unclaimedTariff)).failed _).2
      ⟨.ofNum 404, .absent (.ofNum 404 : AccountId),
        ⟨[.ofNum 151], [], rfl, fun id hid => ?_, rfl⟩, rfl⟩
    rw [List.mem_singleton.1 hid]
    exact hfinds (by decide)
  · exact (hstep _ _ _ _ (hissued unclaimedTariff) (hset unclaimedTariff)
      rfl).eq_error_iff.2 rfl

end Resolver

end SigningOrder
