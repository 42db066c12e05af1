/-
Failures of the payer, of the domain, and of the lookup. A lookup that says
that an entity is absent finds fault with the transaction; one that says
anything else has gone wrong itself, and is a fault (`LookupError.IsFault`).
A fault must not be taken for an absence, or a node would refuse transactions
that are in order.

On its way to a report an error is mapped by the payer or by the role of the
entity, and in a schedule once more. What comes of that is
`failures_separated`: the payer has its two reasons to itself; the general
reasons are those of faults, in a schedule as outside, with the entity that
the lookup has named; and a store to which records were put and from which
they were removed, and which reads what it has written, gives no reason for
either.
-/
import SigningOrder.Proofs.Resolver.Asks
import SigningOrder.Proofs.Resolver.Scheduled
import SigningOrder.Proofs.Store.History

namespace SigningOrder

-- ================================================================== the store

/-- A change puts a record that is read back from what is written for it, or
removes one. -/
inductive Change.IsTyped : Change → Prop where
  | put {kind : EntityKind} (id : EntityId kind) {record : Record kind}
      (reads : (Record.format kind).decodeValue
        ((Record.format kind).encode record) = .ok record) :
      IsTyped (.put kind id record)
  | remove (e : EntityRef) : IsTyped (.remove e)

/-- A record is read back if its values fit the format. -/
theorem Change.IsTyped.of_fits {kind : EntityKind} (id : EntityId kind)
    {record : Record kind} (h : (Record.format kind).fits record) :
    (Change.put kind id record).IsTyped := by
  have hread := Format.decodeValue_encode h []
  rw [List.append_nil] at hread
  exact .put id hread

/-- A store that such changes have made has no faults: an entity that it does
not answer for is absent. -/
theorem Snapshot.eq_absent_of_typed {s : Snapshot} {changes : List Change}
    {n : UInt64} (h : Change.applyAll .empty changes = .ok ⟨s.records, n⟩)
    (htyped : ∀ c ∈ changes, c.IsTyped) {kind : EntityKind}
    {id : EntityId kind} {e : LookupError} (he : s.lookup kind id = .error e) :
    e = .absent id := by
  have hfound := Change.find?_applyAll id.ref h
  have hlastTyped {c : Change} (hc : Change.lastOn id.ref changes = some c) :
      c.IsTyped := htyped c (Change.mem_of_lastOn hc)
  rcases Change.lastOn_cases id changes with hlast | ⟨record, hlast⟩
    | ⟨bytes, hlast⟩ | ⟨bytes, hlast⟩ | hlast
  · rw [hlast] at hfound
    exact Except.error.inj (he.symm.trans (lookup_of_none hfound))
  · rw [hlast] at hfound
    cases hlastTyped hlast with
    | put _ reads =>
        rw [lookup_of_record hfound reads, Record.answer] at he
        split at he
        · cases he
        · exact (Except.error.inj he).symm
  · cases hlastTyped hlast
  · cases hlastTyped hlast
  · rw [hlast] at hfound
    exact Except.error.inj (he.symm.trans (lookup_of_none hfound))

/-- An absence is no fault. -/
theorem LookupError.not_isFault_absent {kind : EntityKind}
    (id : EntityId kind) : ¬(absent id).IsFault kind :=
  fun h => h rfl

-- ================================================================== the payer

/-- The reason for which a payer that cannot be looked up is reported. -/
def LookupError.payerReason (e : LookupError) : FailureReason :=
  if e.reason? = some .missingAccount then .invalidPayerAccount
  else .generalPayerError

namespace Resolver

variable {r : Resolver} {t : Transaction}

/-- The payer is reported in general exactly at a fault. -/
theorem payerReason_eq_general {e : LookupError} :
    e.payerReason = .generalPayerError ↔ e.IsFault .account := by
  unfold LookupError.payerReason LookupError.IsFault
  by_cases habsent : e.reason? = some .missingAccount
  · rw [if_pos habsent]
    exact ⟨nofun, fun h => absurd habsent h⟩
  · rw [if_neg habsent]
    exact ⟨fun _ => habsent, fun _ => rfl⟩

theorem payerFailure_eq (e : LookupError) :
    payerFailure e = ⟨e.payerReason, some e.entity⟩ := by
  unfold payerFailure LookupError.payerReason LookupError.reason?
    LookupError.entity
  cases e with
  | failure reason entity =>
      dsimp only
      by_cases h : reason = .missingAccount
      · rw [if_pos h, if_pos (congrArg some h)]
      · rw [if_neg h, if_neg fun hsome => h (Option.some.inj hsome)]
  | backend entity message => rfl

/-- The outcome of the payer fails with the lookup of its account. -/
theorem keysForPayer_eq_error {f : OrderingFailure}
    (h : r.keysForPayer t = .error f) :
    ∃ e, r.lookup .account t.payer = .error e
      ∧ f = ⟨e.payerReason, some e.entity, t.id⟩ := by
  unfold keysForPayer payerKeys at h
  split at h
  · cases h
  · cases hfound : r.lookup .account t.payer with
    | ok m =>
        rw [hfound] at h
        cases h
    | error e =>
        rw [hfound] at h
        have hf : failureOf t (payerFailure e) = f := Except.error.inj h
        rw [payerFailure_eq] at hf
        exact ⟨e, rfl, hf.symm⟩

-- ========================================================== all other parties

/-- What an operation on a schedule needs itself are entities, in the role of
their kind. -/
theorem exists_of_mem_ownDemands {l : Lookup} {d : Demand}
    (h : d ∈ l.ownDemands t) :
    ∃ (kind : EntityKind) (id : EntityId kind), d = .of id := by
  obtain ⟨txnId, body⟩ := t
  cases body with
  | scheduleCreate scheduled terms =>
      obtain ⟨id, -, rfl⟩ := List.mem_map.1 h
      exact ⟨.account, id, rfl⟩
  | scheduleSign op =>
      rcases List.mem_cons.1 h with rfl | h
      · exact ⟨.schedule, op.schedule, rfl⟩
      · obtain ⟨id, -, rfl⟩ := List.mem_map.1 h
        exact ⟨.account, id, rfl⟩
  | _ => cases h

/-- Nothing is asked for in a role of the payer or of a lookup gone wrong. -/
theorem Demanded.domain_role {d : Demand} (h : r.Demanded t d) :
    d.role.isPayerFailure = false ∧ d.role.isGeneral = false := by
  cases h with
  | own hown =>
      obtain ⟨kind, id, rfl⟩ := exists_of_mem_ownDemands hown
      exact (Demand.isDirect_of id).2
  | direct _ hdirect => exact (Body.isDirect_of_mem_demands d hdirect).2
  | schedulable _ => exact ⟨rfl, rfl⟩
  | @held _ inner _ _ => cases inner <;> exact ⟨rfl, rfl⟩

/-- A refusal has the reason of the role, unless it is that of a fault. -/
theorem reason_of_refuses {l : Lookup} {d : Demand} {u : Unresolved}
    (h : l.Refuses d u) : u.reason = d.role ∨ u.reason = .generalError := by
  cases h with
  | absent _ _ => exact .inl rfl
  | fault _ _ => exact .inr rfl
  | keyless _ _ => exact .inl rfl
  | unschedulable _ => exact .inl rfl

/-- The failures of other parties leave those of the payer alone. -/
theorem isPayerFailure_eq_false {f : OrderingFailure}
    (h : r.keysForOtherParties t = .error f) :
    f.reason.isPayerFailure = false := by
  obtain ⟨d, u, hstop, hrefuses, rfl⟩ := stopsAt_of_error h
  show u.reason.isPayerFailure = false
  rcases reason_of_refuses hrefuses with hrole | hgeneral
  · rw [hrole]
    exact hstop.demanded.domain_role.1
  · rw [hgeneral]
    rfl

/-- Resolution fails in general only where it stops at a fault. -/
theorem fault_of_generalError {f : OrderingFailure}
    (h : r.keysForOtherParties t = .error f)
    (hgeneral : f.reason = .generalError) :
    ∃ (kind : EntityKind) (role : FailureReason) (id : EntityId kind)
      (e : LookupError), r.StopsAt t (.entity role id)
        ∧ r.lookup kind id = .error e ∧ e.IsFault kind
        ∧ f.entity = some e.entity := by
  obtain ⟨d, u, hstop, hrefuses, rfl⟩ := stopsAt_of_error h
  -- Any other refusal has the reason of a role, and none is general.
  have hrole : d.role ≠ .generalError := by
    intro heq
    have hnot := hstop.demanded.domain_role.2
    rw [heq] at hnot
    cases hnot
  cases hrefuses with
  | fault hfound hfault => exact ⟨_, _, _, _, hstop, hfound, hfault, rfl⟩
  | absent _ _ => exact absurd hgeneral hrole
  | keyless _ _ => exact absurd hgeneral hrole
  | unschedulable _ => exact absurd hgeneral hrole

-- =============================================================== all failures

/-- Where every lookup that fails says that the entity is absent, no failure is
general. -/
theorem isGeneral_eq_false_of_absent {f : OrderingFailure}
    (habsent : ∀ (kind : EntityKind) (id : EntityId kind) (e : LookupError),
      r.lookup kind id = .error e → e = .absent id)
    (h : r.keysForPayer t = .error f ∨ r.keysForOtherParties t = .error f) :
    f.reason.isGeneral = false := by
  rcases h with hpayer | hothers
  · obtain ⟨e, hfound, rfl⟩ := keysForPayer_eq_error hpayer
    cases habsent _ _ _ hfound
    rfl
  · have hgeneral : f.reason ≠ .generalError := by
      intro heq
      obtain ⟨kind, role, id, e, -, hfound, hfault, -⟩ :=
        fault_of_generalError hothers heq
      cases habsent _ _ _ hfound
      exact LookupError.not_isFault_absent id hfault
    have hpayer := isPayerFailure_eq_false hothers
    cases hreason : f.reason with
    | generalError => exact absurd hreason hgeneral
    | generalPayerError =>
        rw [hreason] at hpayer
        cases hpayer
    | _ => rfl

/-- Failures tell the payer, the domain and the lookup apart, whatever the
lookup does.

- A failure for the payer has one of its two reasons, and blames what the
  lookup of the payer has named; the reason is general exactly at a fault.
- A failure for the other parties has neither reason. If it is general, then
  resolution stopped at an entity whose lookup is a fault, and blames what that
  lookup has named.
- Conversely, where resolution stops at an entity whose lookup is a fault, the
  failure is general, in a schedule as well.
- A store made by typed changes alone gives no general failure. -/
theorem failures_separated (r : Resolver) (t : Transaction) :
    (∀ f, r.keysForPayer t = .error f →
      (f.reason = .invalidPayerAccount ∨ f.reason = .generalPayerError)
        ∧ ∃ e, r.lookup .account t.payer = .error e
          ∧ f.entity = some e.entity
          ∧ (f.reason = .generalPayerError ↔ e.IsFault .account))
      ∧ (∀ f, r.keysForOtherParties t = .error f →
        f.reason ≠ .invalidPayerAccount ∧ f.reason ≠ .generalPayerError
          ∧ (f.reason = .generalError →
            ∃ (kind : EntityKind) (role : FailureReason) (id : EntityId kind)
              (e : LookupError), r.StopsAt t (.entity role id)
                ∧ r.lookup kind id = .error e ∧ e.IsFault kind
                ∧ f.entity = some e.entity))
      ∧ (∀ (kind : EntityKind) (role : FailureReason) (id : EntityId kind)
          (e : LookupError), r.StopsAt t (.entity role id) →
            r.lookup kind id = .error e → e.IsFault kind →
            r.keysForOtherParties t
              = .error ⟨.generalError, some e.entity, t.id⟩)
      ∧ ∀ (s : Snapshot) (changes : List Change) (n : UInt64),
        r.lookup = s.lookup →
        Change.applyAll .empty changes = .ok ⟨s.records, n⟩ →
        (∀ c ∈ changes, c.IsTyped) →
        ∀ f, r.keysForPayer t = .error f ∨ r.keysForOtherParties t = .error f →
          f.reason.isGeneral = false := by
  refine ⟨fun f hf => ?_, fun f hf => ?_,
    fun kind role id e hstop hfound hfault => ?_,
    fun s changes n hlookup hmade htyped f hf => ?_⟩
  · obtain ⟨e, hfound, rfl⟩ := keysForPayer_eq_error hf
    refine ⟨?_, e, hfound, rfl, payerReason_eq_general⟩
    exact ite_eq_or_eq _ _ _
  · have hpayer := isPayerFailure_eq_false hf
    refine ⟨fun h => ?_, fun h => ?_, fault_of_generalError hf⟩
    · rw [h] at hpayer
      cases hpayer
    · rw [h] at hpayer
      cases hpayer
  · exact keysForOtherParties_of_stopsAt hstop (.fault hfound hfault)
  · refine isGeneral_eq_false_of_absent (fun kind id e he => ?_) hf
    rw [hlookup] at he
    exact Snapshot.eq_absent_of_typed hmade htyped he

-- =================================================== a schedule and a timeout

/-- The ledger of the deletion, where reading the account that is to be
deleted takes too long. -/
def slow : Resolver where
  lookup := estate.lookup.withKind .account fun id =>
    if id = .ofNum 100 then .error (.backend id.ref "timeout")
    else estate.lookup .account id
  waivers := .nothing

/-- The account of the heir is stored, and the other one removed. -/
def heirOnly : List Change :=
  [.put .account (.ofNum 50) Ledger.holderRecord,
    .remove (EntityId.ref (.ofNum 100 : AccountId))]

/-- The records that are left. -/
def heirSnapshot : Snapshot :=
  (Builder.empty.put (.ofNum 50 : AccountId) Ledger.holderRecord).build

/-- The timeout of a scheduled deletion is reported as one, for the account
that could not be read; on the store, where the account and the payer are
absent, no failure is general. -/
theorem failures_separated_timeout :
    slow.StopsAt (signSchedule 1800)
        (.entity .unresolvableRequiredSigners (.ofNum 100 : AccountId))
      ∧ slow.keysForOtherParties (signSchedule 1800)
        = .error ⟨.generalError, some (EntityId.ref (.ofNum 100 : AccountId)),
          (signSchedule 1800).id⟩
      ∧ Change.applyAll .empty heirOnly = .ok ⟨heirSnapshot.records, 0⟩
      ∧ (∀ c ∈ heirOnly, c.IsTyped)
      ∧ ∀ f, keysForPayer ⟨heirSnapshot.lookup, .nothing⟩ (signSchedule 1800)
            = .error f
          ∨ keysForOtherParties ⟨heirSnapshot.lookup, .nothing⟩
            (signSchedule 1800) = .error f →
        f.reason.isGeneral = false := by
  have hstop : slow.StopsAt (signSchedule 1800)
      (.entity .unresolvableRequiredSigners (.ofNum 100 : AccountId)) := by
    refine ⟨rfl, [.of (.ofNum 1800 : ScheduleId), .of (.ofNum 50 : AccountId),
      .schedulable bequest], _, rfl, ?_⟩
    decide
  have hfault : (LookupError.backend
      (EntityId.ref (.ofNum 100 : AccountId)) "timeout").IsFault .account :=
    nofun
  have hkey : Key.Writable (.leaf (.ed25519 [1])) := by
    simp [Key.Writable, Key.Valid, Key.WellFormed, Key.depth,
      Key.maxKeyDepth, Key.CountsFit, Key.nodes, LeafKey.ed25519, UInt64.size]
  have hfits : (Record.format .account).fits Ledger.holderRecord :=
    ⟨hkey, True.intro, True.intro, True.intro⟩
  have htyped : ∀ c ∈ heirOnly, c.IsTyped :=
    List.forall_mem_cons.2
      ⟨.of_fits _ hfits, List.forall_mem_singleton.2 (.remove _)⟩
  refine ⟨hstop, ?_, rfl, htyped, ?_⟩
  · exact (failures_separated slow _).2.2.1 _ _ _ _ hstop rfl hfault
  · exact (failures_separated ⟨heirSnapshot.lookup, .nothing⟩ _).2.2.2
      heirSnapshot heirOnly 0 rfl rfl htyped

end Resolver

end SigningOrder
