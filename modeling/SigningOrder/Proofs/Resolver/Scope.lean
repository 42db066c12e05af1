/-
The two blocks of an order. A key signs for the transaction that is submitted
or for the one that a schedule holds, and whoever verifies an order takes the
two apart. `scopes_partition` says what they find: an order that is resolved
for a scheduled transaction is of one scope, and any other is a block of keys
that sign for the submitted transaction with a block behind it of keys that
sign for the scheduled one.

The blocks are there before deduplication. An operation that runs no schedule
asks in one scope (`scope_of_mem_direct`); one that does puts its own keys in
front, which are known by name, and the keys of the transaction in the
schedule behind them (`schedulePrefix_of_collectKeys`). Deduplication compares
keys of one scope only, so it works on each block by itself
(`OrderedKey.dedup_append_of_scope_ne`).
-/
import SigningOrder.Proofs.Key.Canonical
import SigningOrder.Proofs.Resolver.Scheduled

namespace SigningOrder

-- ==================================================== statement vocabulary

/-- The keys of an order that sign for one of the two transactions. -/
def OrderedKey.signingFor (scope : Scope) (order : List OrderedKey) :
    List OrderedKey :=
  order.filter (·.scope = scope)

/-- The keys that sign the creation of a schedule: its admin key, and that of
the account that is to pay, unless both decode to the same. -/
def ScheduleTerms.signers (terms : ScheduleTerms) (payerKey : Option Key) :
    List Key :=
  match terms.adminKey, payerKey with
  | some admin, some payer =>
    if admin.sameKey payer then [admin] else [admin, payer]
  | some admin, none => [admin]
  | none, some payer => [payer]
  | none, none => []

-- ================================================================== blocks

namespace OrderedKey

variable {scope : Scope} {keys : List OrderedKey}

theorem signingFor_append (scope : Scope) (front back : List OrderedKey) :
    signingFor scope (front ++ back)
      = signingFor scope front ++ signingFor scope back :=
  List.filter_append ..

theorem signingFor_of_scope_eq (h : ∀ o ∈ keys, o.scope = scope) :
    signingFor scope keys = keys :=
  List.filter_eq_self.2 fun o ho => decide_eq_true (h o ho)

theorem signingFor_of_scope_ne (h : ∀ o ∈ keys, o.scope ≠ scope) :
    signingFor scope keys = [] :=
  List.filter_eq_nil_iff.2 fun o ho => by simpa using h o ho

/-- Of a block of outer keys and a block of scheduled keys, deduplicated
together, each is deduplicated and found again by its scope. -/
theorem signingFor_dedup_append {front back : List OrderedKey}
    (hfront : ∀ o ∈ front, o.scope = .outer)
    (hback : ∀ o ∈ back, o.scope = .scheduled) :
    dedup (front ++ back) = dedup front ++ dedup back
      ∧ signingFor .outer (dedup (front ++ back)) = dedup front
      ∧ signingFor .scheduled (dedup (front ++ back)) = dedup back := by
  have hsplit : dedup (front ++ back) = dedup front ++ dedup back := by
    refine dedup_append_of_scope_ne fun a ha b hb => ?_
    rw [hfront a ha, hback b hb]
    exact nofun
  have hkept : ∀ o ∈ dedup front, o.scope = .outer :=
    fun o ho => hfront o (mem_of_mem_dedup ho)
  have hkept' : ∀ o ∈ dedup back, o.scope = .scheduled :=
    fun o ho => hback o (mem_of_mem_dedup ho)
  refine ⟨hsplit, ?_, ?_⟩
  · rw [hsplit, signingFor_append, signingFor_of_scope_eq hkept,
      signingFor_of_scope_ne fun o ho => by simp [hkept' o ho],
      List.append_nil]
  · rw [hsplit, signingFor_append, signingFor_of_scope_eq hkept',
      signingFor_of_scope_ne fun o ho => by simp [hkept o ho],
      List.nil_append]

/-- Of two keys of one transaction, the second is dropped if it is the same. -/
theorem dedup_outer_pair (a b : Key) :
    dedup [outer a, outer b]
      = if a.sameKey b then [outer a] else [outer a, outer b] := by
  rw [dedup_cons]
  by_cases hsame : a.sameKey b = true
  · have hseen : (outer b).identity ∈ [(outer a).identity] :=
      List.mem_singleton.2
        (congrArg (Prod.mk _) ((Key.sameKey_iff a b).1 hsame).symm)
    rw [dedupFrom_of_mem hseen, if_pos hsame]
    rfl
  · have hseen : (outer b).identity ∉ [(outer a).identity] := by
      intro hin
      have heq := congrArg Prod.snd (List.mem_singleton.1 hin)
      exact hsame ((Key.sameKey_iff a b).2 heq.symm)
    rw [dedupFrom_of_not_mem hseen, if_neg hsame]
    rfl

end OrderedKey

theorem ScheduleTerms.dedup_signers (terms : ScheduleTerms)
    (payerKey : Option Key) :
    OrderedKey.dedup
        ((terms.adminKey.toList ++ payerKey.toList).map OrderedKey.outer)
      = (terms.signers payerKey).map OrderedKey.outer := by
  unfold signers
  cases terms.adminKey with
  | none => cases payerKey <;> rfl
  | some admin =>
      cases payerKey with
      | none => rfl
      | some payer =>
          refine (OrderedKey.dedup_outer_pair admin payer).trans ?_
          dsimp only
          split <;> rfl

-- ====================================================== what is collected

namespace Resolver

variable {r : Resolver} {t : Transaction}

theorem scope_of_scheduled (h : t.id.scheduled = true) :
    t.id.scope = .scheduled :=
  if_pos h

theorem scope_of_not_scheduled (h : t.id.scheduled = false) :
    t.id.scope = .outer :=
  if_neg (by rw [h]; exact Bool.false_ne_true)

/-- An operation that runs no schedule asks in the scope of its transaction. -/
theorem scope_of_mem_direct {keys : List OrderedKey}
    (hruns : t.body.runsSchedule = false) (h : r.collectKeys t = .ok keys) :
    ∀ o ∈ keys, o.scope = t.id.scope := by
  obtain ⟨direct, -, rfl⟩ := (collectKeys_eq_ok_of_not_runsSchedule hruns).1 h
  exact List.forall_mem_map.2 fun _ _ => rfl

/-- An operation has keys of its own only where its schedule is at hand. -/
theorem scheduled?_of_ownKeys {own : List OrderedKey}
    (hruns : t.body.runsSchedule = true) (h : r.ownKeys t = .ok own) :
    ∃ b, r.lookup.scheduled? t = some b := by
  obtain ⟨id, body⟩ := t
  cases body with
  | scheduleCreate scheduled terms => exact ⟨scheduled, rfl⟩
  | scheduleSign op =>
      obtain ⟨m, hfind, -⟩ := bind_eq_ok.1 h
      refine ⟨m.scheduledBody, ?_⟩
      unfold Lookup.scheduled?
      dsimp only
      rw [findFor_eq_ok.1 hfind]
  | _ => cases hruns

/-- An operation that runs a schedule asks for the keys that it puts in front,
which are known by name, and for scheduled keys behind them. -/
theorem schedulePrefix_of_collectKeys {keys : List OrderedKey}
    (hruns : t.body.runsSchedule = true) (h : r.collectKeys t = .ok keys) :
    ∃ payerKey rest, r.lookup.designatedKey t = .ok payerKey
      ∧ t.schedulePrefix payerKey ++ rest = keys
      ∧ ∀ o ∈ rest, o.scope = .scheduled := by
  obtain ⟨own, hown, rest, hrest, rfl⟩ := collectKeys_eq_ok.1 h
  obtain ⟨b, hb⟩ := scheduled?_of_ownKeys hruns hown
  have hscheduled : ∀ o ∈ rest, o.scope = .scheduled := by
    obtain ⟨-, direct, -, rfl⟩ := effectiveKeys_eq_ok.1 hrest
    rw [Lookup.effective_of_scheduled hb]
    exact List.forall_mem_map.2 fun _ _ => rfl
  rw [ownKeys_eq hb] at hown
  split at hown
  next payerKey hpayer =>
    cases hown
    exact ⟨payerKey, rest, hpayer, rfl, hscheduled⟩
  next => cases hown

/-- A scheduled transaction collects scheduled keys only. -/
theorem scope_of_mem_collectKeys {keys : List OrderedKey}
    (hid : t.id.scheduled = true) (h : r.collectKeys t = .ok keys) :
    ∀ o ∈ keys, o.scope = .scheduled := by
  have hscope := scope_of_scheduled hid
  by_cases hruns : t.body.runsSchedule = true
  · obtain ⟨payerKey, rest, -, rfl, hrest⟩ :=
      schedulePrefix_of_collectKeys hruns h
    refine List.forall_mem_append.2 ⟨?_, hrest⟩
    unfold Transaction.schedulePrefix
    split
    next => exact List.forall_mem_map.2 fun _ _ => hscope
    next => exact List.forall_mem_map.2 fun _ _ => rfl
    next => exact nofun
  · rw [Bool.not_eq_true] at hruns
    rw [← hscope]
    exact scope_of_mem_direct hruns h

/-- A transaction that is submitted itself collects outer keys, and scheduled
keys behind them. -/
theorem blocks_of_collectKeys {keys : List OrderedKey}
    (hid : t.id.scheduled = false) (h : r.collectKeys t = .ok keys) :
    ∃ front back, front ++ back = keys
      ∧ (∀ o ∈ front, o.scope = .outer) ∧ (∀ o ∈ back, o.scope = .scheduled)
      ∧ (t.body.runsSchedule = false → back = [])
      ∧ (∀ op, t.body = .scheduleSign op → front = [])
      ∧ ∀ scheduled terms, t.body = .scheduleCreate scheduled terms →
        ∃ payerKey, r.lookup.designatedKey t = .ok payerKey
          ∧ front = (terms.adminKey.toList ++ payerKey.toList).map
              OrderedKey.outer := by
  have hscope := scope_of_not_scheduled hid
  by_cases hruns : t.body.runsSchedule = true
  · obtain ⟨payerKey, rest, hpayer, rfl, hrest⟩ :=
      schedulePrefix_of_collectKeys hruns h
    obtain ⟨id, body⟩ := t
    cases body with
    | scheduleCreate scheduled terms =>
        unfold Transaction.schedulePrefix
        dsimp only at hscope ⊢
        rw [hscope]
        refine ⟨_, rest, rfl, List.forall_mem_map.2 fun _ _ => rfl, hrest,
          nofun, nofun, ?_⟩
        rintro _ _ ⟨⟩
        exact ⟨payerKey, hpayer, rfl⟩
    | scheduleSign op =>
        refine ⟨[], _, rfl, nofun, List.forall_mem_append.2 ⟨?_, hrest⟩,
          nofun, fun _ _ => rfl, nofun⟩
        exact List.forall_mem_map.2 fun _ _ => rfl
    | _ => cases hruns
  · have hdirect := scope_of_mem_direct (Bool.not_eq_true _ ▸ hruns) h
    rw [hscope] at hdirect
    refine ⟨keys, [], List.append_nil keys, hdirect, nofun, fun _ => rfl,
      fun op hbody => ?_, fun scheduled terms hbody => ?_⟩
    · rw [hbody] at hruns
      exact absurd rfl hruns
    · rw [hbody] at hruns
      exact absurd rfl hruns

-- ================================================================ the order

/-- The scopes of an order. Resolved for a scheduled transaction, all keys are
scheduled. Otherwise the outer keys are a block and the scheduled keys are a
block behind it; only the creation and the signing of a schedule have keys in
the second, the signing has none in the first, and the first block of a
creation is the admin key of the schedule and the key of the account that it
names to pay, each where there is one, and the second of them only if it does
not decode to the same as the first. -/
theorem scopes_partition (r : Resolver) (t : Transaction)
    (order : List OrderedKey) (h : r.keysForOtherParties t = .ok order) :
    (t.id.scheduled = true → ∀ o ∈ order, o.scope = .scheduled)
      ∧ (t.id.scheduled = false →
        order = OrderedKey.signingFor .outer order
            ++ OrderedKey.signingFor .scheduled order
          ∧ (t.body.runsSchedule = false →
              OrderedKey.signingFor .scheduled order = [])
          ∧ (∀ op, t.body = .scheduleSign op →
              OrderedKey.signingFor .outer order = [])
          ∧ ∀ scheduled terms, t.body = .scheduleCreate scheduled terms →
            ∃ payerKey, r.lookup.designatedKey t = .ok payerKey
              ∧ OrderedKey.signingFor .outer order
                = (terms.signers payerKey).map OrderedKey.outer) := by
  obtain ⟨keys, hkeys, rfl⟩ := keysForOtherParties_eq_ok.1 h
  constructor
  · intro hid o ho
    exact scope_of_mem_collectKeys hid hkeys o (OrderedKey.mem_of_mem_dedup ho)
  · intro hid
    obtain ⟨front, back, rfl, hfront, hback, hnone, hsign, hcreate⟩ :=
      blocks_of_collectKeys hid hkeys
    obtain ⟨hsplit, houter, hscheduled⟩ :=
      OrderedKey.signingFor_dedup_append hfront hback
    rw [houter, hscheduled]
    refine ⟨hsplit, fun hruns => ?_, fun op hbody => ?_,
      fun scheduled terms hbody => ?_⟩
    · rw [hnone hruns]
      rfl
    · rw [hsign op hbody]
      rfl
    · obtain ⟨payerKey, hpayer, rfl⟩ := hcreate scheduled terms hbody
      exact ⟨payerKey, hpayer, terms.dedup_signers payerKey⟩

-- ============================================== an heir who may also cancel

/-- A ledger where account 50 has a plain key, and every account signs for
what it receives. -/
def inheritance : Resolver where
  lookup := Lookup.empty.withKind .account fun id =>
    .ok ⟨if id = .ofNum 50 then .leaf Key.plainKey else Sample.keyOf id, true⟩
  waivers := .nothing

/-- Puts the deletion of account 100 into a schedule that the heir pays for
and may cancel, with another form of its key. -/
def foreseen : Transaction :=
  Sample.txn (.ofNum 1001) (.scheduleCreate bequest
    ⟨some (.leaf Key.wrappedKey), some (.ofNum 50), ""⟩)

/-- The heir signs the creation once, with its admin key, and as the receiver
signs again for the transaction in the schedule. -/
theorem scopes_partition_foreseen :
    inheritance.keysForOtherParties foreseen
        = .ok [.outer (.leaf Key.wrappedKey),
          ⟨Sample.keyOf (.ofNum 100), .scheduled, .standard⟩,
          ⟨.leaf Key.plainKey, .scheduled, .standard⟩]
      ∧ OrderedKey.signingFor .outer [.outer (.leaf Key.wrappedKey),
          ⟨Sample.keyOf (.ofNum 100), .scheduled, .standard⟩,
          ⟨.leaf Key.plainKey, .scheduled, .standard⟩]
        = [.outer (.leaf Key.wrappedKey)] := by
  have horder : inheritance.keysForOtherParties foreseen
      = .ok [.outer (.leaf Key.wrappedKey),
        ⟨Sample.keyOf (.ofNum 100), .scheduled, .standard⟩,
        ⟨.leaf Key.plainKey, .scheduled, .standard⟩] := rfl
  obtain ⟨-, hblocks⟩ := scopes_partition inheritance foreseen _ horder
  obtain ⟨-, -, -, hcreate⟩ := hblocks rfl
  obtain ⟨payerKey, hpayer, houter⟩ := hcreate _ _ rfl
  cases hpayer
  exact ⟨horder, houter⟩

end Resolver

end SigningOrder
