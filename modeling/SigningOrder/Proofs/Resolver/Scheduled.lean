/-
Operations on schedules. To create or to sign a schedule is to resolve the
transaction that it holds as if the payer of the schedule had submitted it,
and to put the keys of the operation in front. `keysForOtherParties_scheduled`
says this of whole outcomes: the order of the operation is made of the order
of the inner transaction, and its failure of that of the inner one.

The inner transaction is collected without being deduplicated first. Nothing
is lost by resolving it on its own, because keys may be deduplicated among
themselves before others are put in front (`OrderedKey.dedup_append_dedup`).
That the resolution ends needs no trust in what is stored: a body that acts
on a schedule is refused before anything of it is looked up, whatever
schedule it names.
-/
import SigningOrder.Proofs.Order.Dedup
import SigningOrder.Proofs.Resolver.Effective
import SigningOrder.Sample.Ledger

namespace SigningOrder

-- ==================================================== statement vocabulary

/-- An operation acts on a schedule if it creates, signs or deletes one. -/
inductive Body.ActsOnSchedule : Body → Prop where
  | create (scheduled : Body) (terms : ScheduleTerms) :
      ActsOnSchedule (.scheduleCreate scheduled terms)
  | sign (op : ScheduleSign) : ActsOnSchedule (.scheduleSign op)
  | delete (op : ScheduleDelete) : ActsOnSchedule (.scheduleDelete op)

/-- A schedule may hold exactly the operations that act on none. -/
theorem Body.isSchedulable_eq_false_iff {b : Body} :
    b.isSchedulable = false ↔ b.ActsOnSchedule := by
  constructor
  · intro h
    cases b with
    | scheduleCreate scheduled terms => exact .create scheduled terms
    | scheduleSign op => exact .sign op
    | scheduleDelete op => exact .delete op
    | _ => cases h
  · intro h
    cases h <;> rfl

instance : DecidablePred Body.ActsOnSchedule := fun _ =>
  decidable_of_iff _ Body.isSchedulable_eq_false_iff

/-- The key of the account that the schedule of an operation names to pay,
where it names one. -/
def Lookup.designatedKey (lookup : Lookup) (t : Transaction) :
    Except LookupError (Option Key) :=
  match lookup.designated? t with
  | some id => (lookup .account id).map fun m : AccountMeta => some m.key
  | none => .ok none

/-- The keys that an operation on a schedule puts in front: the creation its
admin key and then that of the designated payer, for its own transaction; the
signing that of the designated payer, for the transaction in the schedule. -/
def Transaction.schedulePrefix (t : Transaction) (payerKey : Option Key) :
    List OrderedKey :=
  match t.body with
  | .scheduleCreate _ terms =>
    (terms.adminKey.toList ++ payerKey.toList).map (⟨·, t.id.scope, .standard⟩)
  | .scheduleSign _ => payerKey.toList.map (⟨·, .scheduled, .standard⟩)
  | _ => []

/-- The reason for which a designated payer that cannot be looked up stops
the resolution. -/
def LookupError.designationReason (e : LookupError) : FailureReason :=
  if e.reason? = some .missingAccount then .missingAccount else .generalError

/-- The reason that an operation on a schedule reports where its inner
transaction fails for another: only a general failure stays one. -/
def FailureReason.ofScheduled (reason : FailureReason) : FailureReason :=
  if reason.isGeneral then reason else .unresolvableRequiredSigners

namespace Resolver

variable {r : Resolver} {t : Transaction}

-- ============================================================ the two parts

/-- The failure of the lookup of a designated payer, for its reason and with
its entity. -/
theorem ofLookup_missingAccount (e : LookupError) :
    Unresolved.ofLookup .missingAccount .missingAccount e
      = ⟨e.designationReason, some e.entity⟩ := by
  unfold LookupError.designationReason
  by_cases habsent : e.reason? = some .missingAccount
  · rw [if_pos habsent, Unresolved.ofLookup_of_absent _ habsent]
  · rw [if_neg habsent, Unresolved.ofLookup_of_fault _ habsent]

/-- A designated payer is asked for its key, and is found or missing. -/
theorem whenSome_accountKey (payer : Option AccountId) :
    whenSome payer (r.accountKey .missingAccount)
      = match payer with
        | some id =>
          match r.lookup .account id with
          | .ok (m : AccountMeta) => .ok [.ofKey m.key]
          | .error e => .error ⟨e.designationReason, some e.entity⟩
        | none => .ok [] := by
  cases payer with
  | none => rfl
  | some id =>
      unfold whenSome accountKey findFor
      dsimp only
      cases r.lookup .account id with
      | ok m => rfl
      | error e => exact congrArg Except.error (ofLookup_missingAccount e)

/-- The own keys of an operation on a schedule, as a prefix of its order. -/
theorem ownKeys_eq {b : Body} (h : r.lookup.scheduled? t = some b) :
    r.ownKeys t = match r.lookup.designatedKey t with
      | .ok payerKey => .ok (t.schedulePrefix payerKey)
      | .error e => .error ⟨e.designationReason, some e.entity⟩ := by
  obtain ⟨id, body⟩ := t
  cases body with
  | scheduleCreate scheduled terms =>
      unfold ownKeys Lookup.designatedKey Lookup.designated?
        Transaction.schedulePrefix
      dsimp only
      rw [whenSome_accountKey]
      cases terms.payer with
      | none => cases terms.adminKey <;> rfl
      | some payer =>
          dsimp only
          cases r.lookup .account payer with
          | ok m => cases terms.adminKey <;> rfl
          | error e => rfl
  | scheduleSign op =>
      unfold Lookup.scheduled? at h
      unfold ownKeys Lookup.designatedKey Lookup.designated?
        Transaction.schedulePrefix find findFor
      dsimp only at h ⊢
      cases hstored : r.lookup .schedule op.schedule with
      | error e =>
          rw [hstored] at h
          cases h
      | ok m =>
          show (whenSome m.designatedPayer (r.accountKey .missingAccount)
            >>= _) = _
          rw [whenSome_accountKey]
          dsimp only
          cases m.designatedPayer with
          | none => rfl
          | some payer =>
              dsimp only
              cases r.lookup .account payer <;> rfl
  | _ => cases h

/-- The keys of the transaction in a schedule are what it collects on its
own, and its failures are reported as those of a scheduled one. -/
theorem scheduledKeys_eq {id : TransactionId} {payer : AccountId} {b : Body}
    (h : ¬ b.ActsOnSchedule) :
    r.scheduledKeys id payer b
      = (r.collectKeys ⟨id.asScheduled payer, b⟩).mapError
          asScheduledFailure := by
  have hschedulable : b.isSchedulable = true := by
    rw [← Body.isSchedulable_eq_false_iff, Bool.not_eq_false] at h
    exact h
  have hcollect : r.collectKeys ⟨id.asScheduled payer, b⟩
      = (r.directKeys ⟨id.asScheduled payer, b⟩).map
          fun keys => keys.map (.inScope .scheduled) := by
    cases b <;> first | rfl | cases hschedulable
  unfold scheduledKeys
  rw [if_pos hschedulable, hcollect]
  cases r.directKeys ⟨id.asScheduled payer, b⟩ <;> rfl

-- ============================================================= the outcome

/-- An operation on a schedule resolves exactly as the transaction that the
schedule holds, run by who pays for it. In this order:

- a designated payer that cannot be looked up decides the failure;
- a body that acts on a schedule is refused, and nothing is to blame;
- otherwise the order is that of the inner transaction behind the keys of the
  operation, and the failure is that of the inner transaction, with the
  entity that it blames. -/
theorem keysForOtherParties_scheduled (r : Resolver) (t : Transaction)
    (b : Body) (h : r.lookup.scheduled? t = some b) :
    r.keysForOtherParties t = match r.lookup.designatedKey t with
      | .error e => .error ⟨e.designationReason, some e.entity, t.id⟩
      | .ok payerKey =>
        if b.ActsOnSchedule then .error ⟨.unschedulableTransaction, none, t.id⟩
        else
          match r.keysForOtherParties
              ⟨t.id.asScheduled (r.lookup.effectivePayer t), b⟩ with
          | .ok keys =>
            .ok (OrderedKey.dedup (t.schedulePrefix payerKey ++ keys))
          | .error f => .error ⟨f.reason.ofScheduled, f.entity, t.id⟩ := by
  have heffective : r.effectiveKeys t
      = r.scheduledKeys t.id (r.lookup.effectivePayer t) b := by
    unfold effectiveKeys
    rw [h]
  unfold keysForOtherParties
  rw [collectKeys_eq, ownKeys_eq h, heffective]
  cases r.lookup.designatedKey t with
  | error e => rfl
  | ok payerKey =>
      dsimp only
      by_cases hacts : b.ActsOnSchedule
      · have hrefused : b.isSchedulable ≠ true := by
          rw [Body.isSchedulable_eq_false_iff.2 hacts]
          exact Bool.false_ne_true
        rw [if_pos hacts, scheduledKeys, if_neg hrefused]
        rfl
      · rw [if_neg hacts, scheduledKeys_eq hacts]
        cases r.collectKeys ⟨t.id.asScheduled (r.lookup.effectivePayer t), b⟩
          with
        | ok keys =>
            show Except.ok (OrderedKey.dedup (_ ++ keys))
              = .ok (OrderedKey.dedup (_ ++ OrderedKey.dedup keys))
            -- On its own the inner order is deduplicated once more.
            rw [OrderedKey.dedup_append_dedup]
        | error u =>
            show Except.error (failureOf t (asScheduledFailure u))
              = .error ⟨u.reason.ofScheduled, u.entity, t.id⟩
            unfold asScheduledFailure FailureReason.ofScheduled failureOf
            by_cases hgeneral : u.reason.isGeneral = true
            · rw [if_pos hgeneral, if_pos hgeneral]
            · rw [if_neg hgeneral, if_neg hgeneral]

-- ================================================ a deletion in a schedule

/-- Deletes account 100 in favour of account 50. -/
def bequest : Body :=
  .cryptoDelete ⟨.ofNum 100, .ofNum 50⟩

/-- A ledger where every account has its key and signs for what it receives.
Schedule 1800 holds the deletion, paid for by the heir; schedule 1801 holds
its own signing. -/
def estate : Resolver where
  lookup := (Sample.everyAccount true).withKind .schedule fun id =>
    if id = .ofNum 1801 then .ok ⟨none, none, .scheduleSign ⟨id⟩⟩
    else .ok ⟨none, some (.ofNum 50), bequest⟩
  waivers := .nothing

/-- Signs a schedule. -/
def signSchedule (num : UInt64) : Transaction :=
  Sample.txn (.ofNum 1001) (.scheduleSign ⟨.ofNum num⟩)

/-- The heir comes first, as the payer of the schedule, and is not asked again
as the receiver; a schedule that holds its own signing is refused. -/
theorem keysForOtherParties_scheduled_bequest :
    estate.lookup.scheduled? (signSchedule 1800) = some bequest
      ∧ estate.keysForOtherParties (signSchedule 1800)
        = .ok [⟨Sample.keyOf (.ofNum 50), .scheduled, .standard⟩,
          ⟨Sample.keyOf (.ofNum 100), .scheduled, .standard⟩]
      ∧ estate.keysForOtherParties (signSchedule 1801)
        = .error ⟨.unschedulableTransaction, none, (signSchedule 1801).id⟩ := by
  have hheld : estate.lookup.scheduled? (signSchedule 1800) = some bequest := rfl
  have hself : estate.lookup.scheduled? (signSchedule 1801)
      = some (.scheduleSign ⟨.ofNum 1801⟩) := rfl
  refine ⟨hheld, ?_, ?_⟩
  · rw [keysForOtherParties_scheduled estate _ _ hheld]
    rfl
  · rw [keysForOtherParties_scheduled estate _ _ hself]
    rfl

end Resolver

end SigningOrder
