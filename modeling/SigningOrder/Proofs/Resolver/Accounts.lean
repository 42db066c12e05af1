/-
Accounts that are looked up one after another. Some operations name many
accounts: the parties of a transfer, the collectors of fees. All of them must be
found, and each of them signs if what is stored with it says so, or what the
operation wants of it. Every such step is one step with parameters (`askIf`):
the role in which an account is missed, and when it signs.

Two facts are stated of a row of such steps, and whoever has one cites them. It
succeeds if all accounts are found, and names the keys of those that sign, in
order (`forEach_askIf_eq_ok`). Where a resolution ends with the row, and all
that it asks before is met, it fails with the first account that is not found
(`eq_error_of_accounts`).
-/
import SigningOrder.Proofs.Resolver.Asks
import SigningOrder.Proofs.Resolver.Scheduled

namespace SigningOrder

-- ==================================================== statement vocabulary

/-- The reason for which an account is reported that was looked up in a role:
that of the role if it is absent, and a general one if anything else went
wrong. -/
def LookupError.reasonAs (e : LookupError) (role : FailureReason) :
    FailureReason :=
  if e.reason? = some .missingAccount then role else .generalError

namespace Lookup

/-- An account is found. -/
def Finds (l : Lookup) (id : AccountId) : Prop :=
  ∃ m : AccountMeta, l .account id = .ok m

/-- The key of an account, if it is found and signs. -/
def keyIf (l : Lookup) (signs : AccountMeta → Bool) (id : AccountId) :
    Option Key :=
  match l .account id with
  | .ok m => if signs m then some m.key else none
  | .error _ => none

/-- Of accounts in a row, one is the first that is not found. -/
def FirstMissing (l : Lookup) (ids : List AccountId) (id : AccountId)
    (e : LookupError) : Prop :=
  ∃ before after, ids = before ++ id :: after ∧ (∀ b ∈ before, l.Finds b)
    ∧ l .account id = .error e

variable {l : Lookup} {signs : AccountMeta → Bool} {id : AccountId}

theorem keyIf_eq_some {k : Key} :
    l.keyIf signs id = some k
      ↔ ∃ m : AccountMeta,
        l .account id = .ok m ∧ signs m = true ∧ m.key = k := by
  unfold keyIf
  cases l .account id with
  | error e => simp
  | ok m => simp

theorem mem_filterMap_keyIf {ids : List AccountId} {k : Key} :
    k ∈ ids.filterMap (l.keyIf signs)
      ↔ ∃ id m, l .account id = .ok m ∧ id ∈ ids ∧ signs m = true
        ∧ AccountMeta.key m = k := by
  rw [List.mem_filterMap]
  constructor
  · rintro ⟨id, hid, hkey⟩
    obtain ⟨m, hm, hsigns, hk⟩ := keyIf_eq_some.1 hkey
    exact ⟨id, m, hm, hid, hsigns, hk⟩
  · rintro ⟨id, m, hm, hid, hsigns, hk⟩
    exact ⟨id, hid, keyIf_eq_some.2 ⟨m, hm, hsigns, hk⟩⟩

/-- What is asked of an account is met if it is found. -/
theorem unmet_account_eq_none {role : FailureReason} :
    l.unmet (.entity role id) = none ↔ l.Finds id := by
  unfold unmet Finds
  dsimp only
  cases l .account id with
  | error e => simp
  | ok m => simp

theorem unmet_account_eq_some {role : FailureReason} {u : Unresolved} :
    l.unmet (.entity role id) = some u
      ↔ ∃ e, l .account id = .error e ∧ ⟨e.reasonAs role, some e.entity⟩ = u := by
  have hreport (e : LookupError) : Unresolved.ofLookup .missingAccount role e
      = ⟨e.reasonAs role, some e.entity⟩ := by
    unfold LookupError.reasonAs
    by_cases habsent : e.reason? = some .missingAccount
    · rw [if_pos habsent, Unresolved.ofLookup_of_absent _ habsent]
    · rw [if_neg habsent, Unresolved.ofLookup_of_fault _ habsent]
  unfold unmet
  dsimp only
  cases l .account id with
  | error e => simp [EntityKind.absence, hreport]
  | ok m => simp

/-- The first demand on accounts in a row that is not met. -/
theorem findSome?_accounts {role : FailureReason} {ids : List AccountId}
    {u : Unresolved} :
    (ids.map (Demand.entity role)).findSome? l.unmet = some u
      ↔ ∃ id e, l.FirstMissing ids id e
        ∧ ⟨e.reasonAs role, some e.entity⟩ = u := by
  rw [List.findSome?_map, List.findSome?_eq_some_iff]
  constructor
  · rintro ⟨before, id, after, hids, hu, hmet⟩
    obtain ⟨e, he, hu⟩ := unmet_account_eq_some.1 hu
    refine ⟨id, e, ⟨before, after, hids, fun b hb => ?_, he⟩, hu⟩
    exact unmet_account_eq_none.1 (hmet b hb)
  · rintro ⟨id, e, ⟨before, after, hids, hfound, he⟩, hu⟩
    refine ⟨before, id, after, hids, unmet_account_eq_some.2 ⟨e, he, hu⟩,
      fun b hb => ?_⟩
    exact unmet_account_eq_none.2 (hfound b hb)

end Lookup

-- ============================================================== in a row

namespace Resolver

variable {r : Resolver} {t : Transaction}

/-- Looks an account up in a role, and names its key if it signs. -/
def askIf (r : Resolver) (role : FailureReason) (signs : AccountMeta → Bool)
    (id : AccountId) : Except Unresolved (List RequiredKey) := do
  let m ← r.findFor role .account id
  return if signs m then [.ofKey m.key] else []

theorem accountKey_eq_askIf (role : FailureReason) :
    r.accountKey role = r.askIf role fun _ => true :=
  rfl

theorem receiverKey_eq_askIf :
    r.receiverKey = r.askIf .missingAccount (·.receiverSigRequired) :=
  rfl

theorem collectorKey_eq_askIf (own : TokenId → Bool) :
    r.collectorKey own = fun fee => r.askIf .invalidFeeCollector
      (fun m => fee.kind.inOwnToken own || m.receiverSigRequired)
      fee.collector :=
  rfl

theorem askIf_eq_ok {role : FailureReason} {signs : AccountMeta → Bool}
    {id : AccountId} {keys : List RequiredKey} :
    r.askIf role signs id = .ok keys
      ↔ r.lookup.Finds id
        ∧ (r.lookup.keyIf signs id).toList.map .ofKey = keys := by
  have hchain : r.askIf role signs id = .ok keys
      ↔ ∃ m : AccountMeta, r.lookup .account id = .ok m
        ∧ (if signs m then [.ofKey m.key] else []) = keys := by
    unfold askIf
    rw [bind_eq_ok]
    exact exists_congr fun m => and_congr findFor_eq_ok pure_eq_ok
  rw [hchain]
  unfold Lookup.Finds Lookup.keyIf
  cases r.lookup .account id with
  | error e => simp
  | ok m =>
      simp only [Except.ok.injEq, exists_eq_left', exists_eq', true_and]
      by_cases hsigns : signs m = true
      · rw [if_pos hsigns, if_pos hsigns]
        rfl
      · rw [if_neg hsigns, if_neg hsigns]
        rfl

/-- A row of accounts is named if all are found: the keys of those that sign,
in order. -/
theorem forEach_askIf_eq_ok {α : Type} {role : FailureReason}
    {signs : α → AccountMeta → Bool} {id : α → AccountId} {as : List α}
    {keys : List RequiredKey} :
    forEach (fun a => r.askIf role (signs a) (id a)) as = .ok keys
      ↔ (∀ a ∈ as, r.lookup.Finds (id a))
        ∧ (as.filterMap fun a => r.lookup.keyIf (signs a) (id a)).map .ofKey
          = keys := by
  induction as generalizing keys with
  | nil => simp [forEach]
  | cons a as ih =>
      have hkeys : ((a :: as).filterMap fun a => r.lookup.keyIf (signs a) (id a))
          = (r.lookup.keyIf (signs a) (id a)).toList
            ++ as.filterMap fun a => r.lookup.keyIf (signs a) (id a) := by
        rw [List.filterMap_cons]
        cases r.lookup.keyIf (signs a) (id a) <;> rfl
      unfold forEach
      rw [hkeys, List.map_append, List.forall_mem_cons]
      simp only [bind_eq_ok, pure_eq_ok, askIf_eq_ok, ih]
      constructor
      · rintro ⟨_, ⟨hfirst, rfl⟩, _, ⟨hrest, rfl⟩, rfl⟩
        exact ⟨⟨hfirst, hrest⟩, rfl⟩
      · rintro ⟨⟨hfirst, hrest⟩, rfl⟩
        exact ⟨_, ⟨hfirst, rfl⟩, _, ⟨hrest, rfl⟩, rfl⟩

/-- A resolution fails with the first of its demands that is not met. -/
theorem keysForOtherParties_eq_error {f : OrderingFailure} :
    r.keysForOtherParties t = .error f
      ↔ ∃ u, (r.allDemands t).findSome? r.lookup.unmet = some u
        ∧ failureOf t u = f := by
  have hstops : failure? (r.collectKeys t)
      = (r.allDemands t).findSome? r.lookup.unmet :=
    (asks_collectKeys (l := r.lookup) (w := r.waivers) t).stops
  rw [← hstops]
  unfold keysForOtherParties
  cases r.collectKeys t with
  | ok keys =>
      show Except.ok _ = Except.error f ↔ ∃ u, none = some u ∧ failureOf t u = f
      simp
  | error u' =>
      show Except.error _ = Except.error f
        ↔ ∃ u, some u' = some u ∧ failureOf t u = f
      simp

/-- Where a resolution ends with a row of accounts and all before is met, it
fails with the first of them that is not found. -/
theorem eq_error_of_accounts {met : List Demand} {ids : List AccountId}
    {role : FailureReason}
    (hdemands : r.allDemands t = met ++ ids.map (.entity role))
    (hmet : ∀ d ∈ met, r.lookup.unmet d = none) {f : OrderingFailure} :
    r.keysForOtherParties t = .error f
      ↔ ∃ id e, r.lookup.FirstMissing ids id e
        ∧ f = ⟨e.reasonAs role, some e.entity, t.id⟩ := by
  have hnone : met.findSome? r.lookup.unmet = none :=
    List.findSome?_eq_none_iff.2 hmet
  rw [keysForOtherParties_eq_error, hdemands, List.findSome?_append, hnone,
    Option.none_or]
  simp only [Lookup.findSome?_accounts]
  constructor
  · rintro ⟨_, ⟨id, e, hmissing, rfl⟩, rfl⟩
    exact ⟨id, e, hmissing, rfl⟩
  · rintro ⟨id, e, hmissing, rfl⟩
    exact ⟨_, ⟨id, e, hmissing, rfl⟩, rfl⟩

/-- Named keys in the scope of a transaction, under the usual rule. -/
theorem map_inScope_ofKey (scope : Scope) (keys : List Key) :
    (keys.map RequiredKey.ofKey).map (OrderedKey.inScope scope)
      = keys.map fun k => ⟨k, scope, .standard⟩ := by
  rw [List.map_map]
  rfl

-- ======================================================= accounts of a market

/-- A ledger that ends at account 400. Up to account 100, owners sign for what
they receive. -/
def market : Resolver where
  lookup := Lookup.empty.withKind .account fun id =>
    if id.num < 400 then .ok ⟨Sample.keyOf id, id.num ≤ 100⟩
    else .error (.absent id)
  waivers := .nothing

theorem market_finds {id : AccountId} (h : id.num < 400) :
    market.lookup.Finds id :=
  ⟨_, if_pos h⟩

end Resolver

end SigningOrder
