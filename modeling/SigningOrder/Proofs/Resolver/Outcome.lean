/-
Opening outcomes. The keys of an operation are named by a few steps: look up
an entity, take its key, add what may be there, go on. Each step succeeds
under one condition, and this file states it once per step as an `↔`
(`…_eq_ok`), with the result beside it. A statement on the keys of an
operation opens it with these and never looks inside a lookup again.
-/
import SigningOrder.Proofs.Chain
import SigningOrder.Resolver

namespace SigningOrder

namespace Unresolved

-- The error of a lookup is reported for the role exactly where it says that
-- the entity is absent, and always with the entity that it names.

theorem ofLookup_of_absent {e : LookupError}
    {expected : FailureReason} (role : FailureReason)
    (h : e.reason? = some expected) :
    ofLookup expected role e = ⟨role, some e.entity⟩ := by
  cases e with
  | failure reason entity => exact if_pos (Option.some.inj h)
  | backend entity message => cases h

theorem ofLookup_of_fault {e : LookupError}
    {expected : FailureReason} (role : FailureReason)
    (h : e.reason? ≠ some expected) :
    ofLookup expected role e = ⟨.generalError, some e.entity⟩ := by
  cases e with
  | failure reason entity => exact if_neg fun heq => h (congrArg some heq)
  | backend entity message => rfl

end Unresolved

namespace Resolver

variable {α : Type}

-- ======================================================= one looked up

variable {r : Resolver}

/-- An entity is found when the lookup answers for it, whatever role it
plays. -/
theorem findFor_eq_ok {role : FailureReason} {kind : EntityKind}
    {id : EntityId kind} {m : Meta kind} :
    r.findFor role kind id = .ok m ↔ r.lookup kind id = .ok m := by
  unfold findFor
  cases r.lookup kind id with
  | ok m' => simp
  | error e => simp

/-- The key of an account that plays a role is the one that is stored. -/
theorem accountKey_eq_ok {role : FailureReason} {id : AccountId}
    {keys : List RequiredKey} :
    r.accountKey role id = .ok keys
      ↔ ∃ m : AccountMeta, r.lookup .account id = .ok m
          ∧ [.ofKey m.key] = keys := by
  unfold accountKey
  rw [bind_eq_ok]
  exact exists_congr fun m => and_congr findFor_eq_ok pure_eq_ok

/-- A receiver that exists signs where its account says so. -/
theorem receiverKey_eq_ok {id : AccountId} {keys : List RequiredKey} :
    r.receiverKey id = .ok keys
      ↔ ∃ m : AccountMeta, r.lookup .account id = .ok m
          ∧ (if m.receiverSigRequired then [.ofKey m.key] else []) = keys := by
  unfold receiverKey
  rw [bind_eq_ok]
  exact exists_congr fun m => and_congr findFor_eq_ok pure_eq_ok

/-- The admin key of a contract is named when the contract has one that can
sign. -/
theorem contractAdmin_eq_ok {id : ContractId} {keys : List RequiredKey} :
    r.contractAdmin id = .ok keys
      ↔ ∃ m : ContractMeta, r.lookup .contract id = .ok m
          ∧ ∃ k, m.adminKey = some k ∧ [.ofKey k] = keys := by
  unfold contractAdmin
  rw [bind_eq_ok]
  refine exists_congr fun m => and_congr findFor_eq_ok ?_
  cases m.adminKey with
  | none => simp [throw, throwThe, MonadExceptOf.throw]
  | some k => simp [pure_eq_ok]

/-- The update of an account as a chain: the present key unless it is
waived, and then the new one. -/
theorem cryptoUpdate_eq (r : Resolver) (t : Transaction) (op : CryptoUpdate) :
    r.cryptoUpdate t op
      = (if r.waivers.targetAccount t then .ok []
          else r.accountKey .missingAccount op.account) >>= fun present =>
        pure (present
          ++ if r.waivers.newAccount t then [] else optionalKey op.key) := by
  unfold cryptoUpdate
  by_cases htarget : r.waivers.targetAccount t = true
  · simp only [if_pos htarget]
  · simp only [if_neg htarget]

/-- The update of a contract as a chain: the present admin key where it is
needed, and then the new one. -/
theorem contractUpdate_eq (r : Resolver) (op : ContractUpdate) :
    r.contractUpdate op
      = (if op.needsAdmin then r.contractAdmin op.contract else .ok [])
        >>= fun present =>
          pure (present ++ optionalKey (Key.usable op.adminKey)) := by
  unfold contractUpdate
  by_cases hadmin : op.needsAdmin = true
  · simp only [if_pos hadmin]
  · simp only [if_neg hadmin]

-- ===================================================== one for each value

/-- What is named for a value that may be there: nothing where it is not. -/
theorem whenSome_eq_ok {value : Option α}
    {f : α → Except Unresolved (List RequiredKey)}
    {keys : List RequiredKey} :
    whenSome value f = .ok keys
      ↔ (value = none ∧ keys = []) ∨ ∃ a, value = some a ∧ f a = .ok keys := by
  cases value with
  | none =>
      refine ⟨fun h => Or.inl ⟨rfl, (Except.ok.inj h).symm⟩, fun h => ?_⟩
      rcases h with ⟨-, rfl⟩ | ⟨_, h, -⟩
      · rfl
      · cases h
  | some a =>
      refine ⟨fun h => Or.inr ⟨a, rfl, h⟩, fun h => ?_⟩
      rcases h with ⟨h, -⟩ | ⟨_, h, hf⟩
      · cases h
      · cases h
        exact hf

-- ================================================ what all keys share

/-- Every key that an outcome names, if it names any, has a property. -/
def OnlyNames (P : RequiredKey → Prop)
    (x : Except Unresolved (List RequiredKey)) : Prop :=
  ∀ keys, x = .ok keys → ∀ k ∈ keys, P k

variable {P : RequiredKey → Prop}

/-- A chain names what it ends with. -/
theorem onlyNames_bind {x : Except Unresolved α}
    {f : α → Except Unresolved (List RequiredKey)}
    (h : ∀ a, x = .ok a → OnlyNames P (f a)) : OnlyNames P (x >>= f) := by
  intro keys hkeys
  obtain ⟨a, hx, hf⟩ := bind_eq_ok.1 hkeys
  exact h a hx keys hf

/-- What is returned is named. -/
theorem onlyNames_pure {keys : List RequiredKey} (h : ∀ k ∈ keys, P k) :
    OnlyNames P (pure keys) := by
  intro named hnamed
  rw [← pure_eq_ok.1 hnamed]
  exact h

/-- The key of an account that plays a role is the only one named. -/
theorem onlyNames_accountKey {role : FailureReason} {id : AccountId}
    (h : ∀ m : AccountMeta, r.lookup .account id = .ok m → P (.ofKey m.key)) :
    OnlyNames P (r.accountKey role id) := by
  intro keys hkeys
  obtain ⟨m, hm, rfl⟩ := accountKey_eq_ok.1 hkeys
  intro k hk
  rw [List.mem_singleton.1 hk]
  exact h m hm

/-- The key of a receiver is the only one named. -/
theorem onlyNames_receiverKey {id : AccountId}
    (h : ∀ m : AccountMeta, r.lookup .account id = .ok m → P (.ofKey m.key)) :
    OnlyNames P (r.receiverKey id) := by
  intro keys hkeys
  obtain ⟨m, hm, rfl⟩ := receiverKey_eq_ok.1 hkeys
  intro k hk
  split at hk
  · rw [List.mem_singleton.1 hk]
    exact h m hm
  · cases hk

/-- What is named for a value that may be there is named for the value. -/
theorem onlyNames_whenSome {value : Option α}
    {f : α → Except Unresolved (List RequiredKey)}
    (h : ∀ a, value = some a → OnlyNames P (f a)) :
    OnlyNames P (whenSome value f) := by
  intro keys hkeys
  rcases whenSome_eq_ok.1 hkeys with ⟨-, rfl⟩ | ⟨a, ha, hf⟩
  · intro k hk
    cases hk
  · exact h a ha keys hf

/-- What is named for several values is named for one of them. -/
theorem onlyNames_forEach {f : α → Except Unresolved (List RequiredKey)}
    {as : List α} (h : ∀ a ∈ as, OnlyNames P (f a)) :
    OnlyNames P (forEach f as) := by
  induction as with
  | nil =>
      intro keys hkeys
      cases hkeys
      intro k hk
      cases hk
  | cons a as ih =>
      unfold forEach
      refine onlyNames_bind fun first hfirst => ?_
      refine onlyNames_bind fun rest hrest => onlyNames_pure ?_
      have hhead := h a List.mem_cons_self first hfirst
      have htail := ih (fun b hb => h b (List.mem_cons_of_mem _ hb)) rest hrest
      exact List.forall_mem_append.2 ⟨hhead, htail⟩

/-- A key that may be there is the only one named. -/
theorem forall_mem_optionalKey {key : Option Key}
    (h : ∀ k, key = some k → P (.ofKey k)) : ∀ k ∈ optionalKey key, P k := by
  intro k hk
  unfold optionalKey at hk
  rw [Option.mem_toList] at hk
  obtain ⟨k', hk', rfl⟩ := Option.map_eq_some_iff.1 hk
  exact h k' hk'

end Resolver

end SigningOrder
