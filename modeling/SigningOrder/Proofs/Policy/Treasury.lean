/-
The treasury. The treasury may be updated by itself only, and even then its
new key must sign. The guarantee is spread over the rules for system entities,
which answer "authorized" for the treasury alone (`check_treasury`), and two
waivers, one of which leaves the new key of the treasury alone; together they
give the update of the treasury as one chain (`directKeys_treasury`).

Whatever takes effect, directly or in a schedule, the keys that it names are
asked for in its scope (`asked_of_directKeys`). They may be dropped as
repetitions of keys that the operation on a schedule names before them, and
then those are asked for in the same scope.
-/
import SigningOrder.Proofs.Resolver.Waived

namespace SigningOrder

namespace EntityNumbers

variable {x : EntityNumbers}

/-- The rules let the treasury update itself, and nobody else. -/
theorem check_treasury {t : Transaction} {op : CryptoUpdate}
    (hbody : t.body = .cryptoUpdate op)
    (hop : op.account = x.treasuryAccount) :
    x.check t
      = if t.payer = x.treasuryAccount then .authorized else .unauthorized := by
  unfold check
  rw [hbody]
  dsimp only
  unfold checkAccountUpdate isTreasury
  simp only [hop, beq_iff_eq, if_true]

end EntityNumbers

namespace Resolver

variable {config : SigningConfig} {lookup : Lookup} {r : Resolver}
  {t : Transaction} {order : List OrderedKey}

/-- Where an order is given, the operation that takes effect names its keys,
and they are asked for in its scope; of a file it must not drop the keys. -/
theorem asked_of_directKeys
    (hdrops : (r.lookup.effective t).body.dropsWacl = false)
    (h : r.keysForOtherParties t = .ok order) :
    ∃ direct, r.directKeys (r.lookup.effective t) = .ok direct
      ∧ ∀ k, RequiredKey.ofKey k ∈ direct →
        OrderedKey.AskedIn order (r.lookup.effective t).id.scope k := by
  obtain ⟨collected, hcollect, rfl⟩ := keysForOtherParties_eq_ok.1 h
  obtain ⟨own, hown, rest, hrest, rfl⟩ := collectKeys_eq_ok.1 hcollect
  obtain ⟨-, direct, hdirect, rfl⟩ := effectiveKeys_eq_ok.1 hrest
  refine ⟨direct, hdirect, fun k hk => askedIn_dedup ?_ ?_⟩
  · have husual := usual_directKeys hdrops direct hdirect
    exact List.forall_mem_append.2
      ⟨activation_of_mem_ownKeys hown, activation_of_mem_inScope husual⟩
  · exact List.mem_append_right own (List.mem_map_of_mem hk)

/-- The present key of the treasury is waived for itself only. -/
theorem targetAccount_treasury {op : CryptoUpdate}
    (hbody : t.body = .cryptoUpdate op)
    (hop : op.account = config.entities.treasuryAccount) :
    (Waivers.ofConfig config).targetAccount t
      = decide (t.payer = config.entities.treasuryAccount) := by
  unfold Waivers.ofConfig
  dsimp only
  rw [hbody, EntityNumbers.check_treasury hbody hop]
  by_cases hpayer : t.payer = config.entities.treasuryAccount
  · simp only [if_pos hpayer, decide_eq_true hpayer]
    rfl
  · simp only [if_neg hpayer, decide_eq_false hpayer]
    rfl

/-- The new key of the treasury is never waived. -/
theorem newAccount_treasury {op : CryptoUpdate}
    (hbody : t.body = .cryptoUpdate op)
    (hop : op.account = config.entities.treasuryAccount) :
    (Waivers.ofConfig config).newAccount t = false := by
  unfold Waivers.ofConfig
  dsimp only
  rw [hbody]
  simp [EntityNumbers.isTreasury, hop]

/-- The update of the treasury names its present key, unless it updates
itself, and its new key. -/
theorem directKeys_treasury {op : CryptoUpdate}
    (hbody : t.body = .cryptoUpdate op)
    (hop : op.account = config.entities.treasuryAccount) :
    (ofConfig lookup config).directKeys t
      = (if t.payer = config.entities.treasuryAccount then .ok []
          else (ofConfig lookup config).accountKey .missingAccount op.account)
        >>= fun present => pure (present ++ optionalKey op.key) := by
  have hdirect : (ofConfig lookup config).directKeys t
      = (ofConfig lookup config).cryptoUpdate t op := by
    unfold directKeys
    rw [hbody]
  rw [hdirect, cryptoUpdate_eq, ofConfig]
  dsimp only
  rw [targetAccount_treasury hbody hop, newAccount_treasury hbody hop]
  simp only [decide_eq_true_eq, Bool.false_eq_true, if_false]

/-- The new key of the treasury is always proven, and its present key is
waived for itself only. Whatever the configuration and the lookup, where a
transaction updates the treasury, by itself or in the schedule that it creates
or signs, and its order is given:

- the new key, if there is one, is asked for in the scope of the update,
  whoever pays for it;
- unless the treasury pays for it, the treasury looks up and its present key
  is asked for in that scope. -/
theorem treasury_always_proves_new_key (config : SigningConfig)
    (lookup : Lookup) (t : Transaction) (op : CryptoUpdate)
    (hbody : (lookup.effective t).body = .cryptoUpdate op)
    (hop : op.account = config.entities.treasuryAccount)
    (order : List OrderedKey)
    (h : (ofConfig lookup config).keysForOtherParties t = .ok order) :
    (∀ k, op.key = some k →
        OrderedKey.AskedIn order (lookup.effective t).id.scope k)
      ∧ (lookup.effectivePayer t ≠ config.entities.treasuryAccount →
        ∃ m : AccountMeta, lookup .account op.account = .ok m
          ∧ OrderedKey.AskedIn order (lookup.effective t).id.scope m.key) := by
  have hdrops : (lookup.effective t).body.dropsWacl = false := by
    rw [hbody]
    rfl
  obtain ⟨direct, hdirect, hasked⟩ :=
    asked_of_directKeys (r := ofConfig lookup config) hdrops h
  have hupdate := @directKeys_treasury config lookup _ op hbody hop
  obtain ⟨present, hpresent, hkeys⟩ := bind_eq_ok.1 (hupdate.symm.trans hdirect)
  obtain rfl := pure_eq_ok.1 hkeys
  refine ⟨fun k hk => hasked k ?_, fun hpayer => ?_⟩
  · rw [hk]
    exact List.mem_append_right present List.mem_cons_self
  · rw [← Lookup.effective_payer] at hpayer
    rw [if_neg hpayer] at hpresent
    obtain ⟨m, hm, rfl⟩ := accountKey_eq_ok.1 hpresent
    exact ⟨m, hm, hasked m.key (List.mem_append_left _ List.mem_cons_self)⟩

/-- Gives the treasury a new key. -/
def rekeyTreasury : CryptoUpdate :=
  ⟨.ofNum 2, some replacementKey, none, none, none⟩

/-- A ledger where every account has its key. Schedule 1801 holds the update
of the treasury and names the system administrator to pay for it; any other
holds the same and names the treasury. -/
def vault : Lookup :=
  (Sample.everyAccount false).withKind .schedule fun id =>
    .ok ⟨none, if id = .ofNum 1801 then some (.ofNum 50) else some (.ofNum 2),
      .cryptoUpdate rekeyTreasury⟩

/-- Signs a schedule of the vault. -/
def signVault (num : UInt64) : Transaction :=
  Sample.txn (.ofNum 1001) (.scheduleSign ⟨.ofNum num⟩)

/-- In a schedule that the administrator pays for, both keys of the treasury
must sign; in one that it pays for itself, it signs as the payer, and its new
key still signs. -/
theorem treasury_always_proves_new_key_scheduled :
    (ofConfig vault .usual).keysForOtherParties (signVault 1801)
        = .ok [⟨Sample.keyOf (.ofNum 50), .scheduled, .standard⟩,
          ⟨Sample.keyOf (.ofNum 2), .scheduled, .standard⟩,
          ⟨replacementKey, .scheduled, .standard⟩]
      ∧ (ofConfig vault .usual).keysForOtherParties (signVault 1800)
        = .ok [⟨Sample.keyOf (.ofNum 2), .scheduled, .standard⟩,
          ⟨replacementKey, .scheduled, .standard⟩]
      ∧ OrderedKey.AskedIn [⟨Sample.keyOf (.ofNum 2), .scheduled, .standard⟩,
          ⟨replacementKey, .scheduled, .standard⟩] .scheduled replacementKey
      ∧ ∃ m : AccountMeta, vault .account (.ofNum 2) = .ok m
        ∧ OrderedKey.AskedIn
          [⟨Sample.keyOf (.ofNum 50), .scheduled, .standard⟩,
          ⟨Sample.keyOf (.ofNum 2), .scheduled, .standard⟩,
          ⟨replacementKey, .scheduled, .standard⟩] .scheduled m.key := by
  have hadmin : (ofConfig vault .usual).keysForOtherParties (signVault 1801)
      = .ok [⟨Sample.keyOf (.ofNum 50), .scheduled, .standard⟩,
        ⟨Sample.keyOf (.ofNum 2), .scheduled, .standard⟩,
        ⟨replacementKey, .scheduled, .standard⟩] := rfl
  have hitself : (ofConfig vault .usual).keysForOtherParties (signVault 1800)
      = .ok [⟨Sample.keyOf (.ofNum 2), .scheduled, .standard⟩,
        ⟨replacementKey, .scheduled, .standard⟩] := rfl
  refine ⟨hadmin, hitself, ?_, ?_⟩
  · exact (treasury_always_proves_new_key .usual vault (signVault 1800)
      rekeyTreasury rfl rfl _ hitself).1 replacementKey rfl
  · exact (treasury_always_proves_new_key .usual vault (signVault 1801)
      rekeyTreasury rfl rfl _ hadmin).2 (by decide)

end Resolver

end SigningOrder
