/-
Who submits. The payer of a transaction is read in three places: where the
schedule that it creates or signs names nobody to pay, where the rules for
system entities are asked, and where a failure names its transaction. The
first only hands the payer on to the second, so apart from the failure's
identifier the outcome (`outcome`) is decided by the body, by the scope, and
by what the waivers say of the transaction that takes effect
(`outcome_of_answers`).

Under the policy for system entities what the waivers say is decided by the
body and by whether the payer is authorized (`answers_ofConfig`). A schedule
that names who pays is therefore resolved alike for every signer. One that
names nobody is resolved alike for two signers unless the rules authorize
what it holds for exactly one of them.
-/
import SigningOrder.Proofs.Resolver.Waived

namespace SigningOrder

-- ==================================================== statement vocabulary

/-- Why an order cannot be given, whatever transaction it was for. -/
def OrderingFailure.cause (f : OrderingFailure) : Unresolved :=
  ⟨f.reason, f.entity⟩

/-- The operations that fall under the rules for system entities. -/
def Body.isGoverned : Body → Bool
  | cryptoUpdate _ => true
  | fileUpdate _ => true
  | fileAppend _ => true
  | _ => false

namespace EntityNumbers

variable {x : EntityNumbers} {t t' : Transaction}

/-- The rules ask who pays, and for what. -/
theorem check_congr (hpayer : t.payer = t'.payer) (hbody : t.body = t'.body) :
    x.check t = x.check t' := by
  unfold check
  rw [hpayer, hbody]

/-- The rules authorize nothing but what falls under them. -/
theorem isGoverned_of_authorized (h : (x.check t).isAuthorized = true) :
    t.body.isGoverned = true := by
  obtain ⟨id, body⟩ := t
  cases body <;> first | rfl | cases h

end EntityNumbers

namespace Resolver

variable {config : SigningConfig} {lookup : Lookup} {w : Waivers}
  {t t' : Transaction}

/-- The order of the other parties, or why it cannot be given. -/
def outcome (r : Resolver) (t : Transaction) :
    Except Unresolved (List OrderedKey) :=
  (r.keysForOtherParties t).mapError OrderingFailure.cause

-- ========================================================= whoever submits

theorem outcome_eq (r : Resolver) (t : Transaction) :
    r.outcome t = (r.collectKeys t).map OrderedKey.dedup := by
  unfold outcome keysForOtherParties
  cases r.collectKeys t <;> rfl

/-- A schedule and whom it names to pay are looked up for the body. -/
theorem scheduled?_of_body (hbody : t.body = t'.body) :
    lookup.scheduled? t = lookup.scheduled? t' := by
  unfold Lookup.scheduled?
  rw [hbody]

/-- What an operation on a schedule names for itself is decided by its body
and its scope. -/
theorem ownKeys_of_body {r : Resolver} (hbody : t.body = t'.body)
    (hscheduled : t.id.scheduled = t'.id.scheduled) :
    r.ownKeys t = r.ownKeys t' := by
  unfold ownKeys TransactionId.scope
  rw [hbody, hscheduled]

/-- So are the body and the scope of what takes effect. -/
theorem effective_of_body (hbody : t.body = t'.body)
    (hscheduled : t.id.scheduled = t'.id.scheduled) :
    (lookup.effective t).body = (lookup.effective t').body
      ∧ (lookup.effective t).id.scope = (lookup.effective t').id.scope := by
  have hrun : lookup.scheduled? t = lookup.scheduled? t' :=
    scheduled?_of_body hbody
  cases hheld : lookup.scheduled? t' with
  | none =>
      rw [Lookup.effective_of_not_scheduled hheld,
        Lookup.effective_of_not_scheduled (hrun.trans hheld)]
      unfold TransactionId.scope
      rw [hscheduled]
      exact ⟨hbody, rfl⟩
  | some body =>
      rw [Lookup.effective_of_scheduled hheld,
        Lookup.effective_of_scheduled (hrun.trans hheld)]
      exact ⟨rfl, rfl⟩

/-- Two submissions of one body have one outcome, if the waivers say the same
of what takes effect. -/
theorem outcome_of_answers (hbody : t.body = t'.body)
    (hscheduled : t.id.scheduled = t'.id.scheduled)
    (h : w.answers (lookup.effective t) = w.answers (lookup.effective t')) :
    outcome ⟨lookup, w⟩ t = outcome ⟨lookup, w⟩ t' := by
  have hsame : (lookup.effective t).body = (lookup.effective t').body
      ∧ (lookup.effective t).id.scope = (lookup.effective t').id.scope :=
    effective_of_body hbody hscheduled
  have heffective : effectiveKeys ⟨lookup, w⟩ t
      = effectiveKeys ⟨lookup, w⟩ t' := by
    refine (inStep_effectiveKeys (R := Eq) (scheduled?_of_body hbody)
      ?_ ?_).eq
    · dsimp only
      rw [directKeys_of_answers hsame.1 h]
      exact .refl (fun _ => rfl) _
    · rintro keys _ rfl
      dsimp only
      rw [hsame.2]
  rw [outcome_eq, outcome_eq, collectKeys_eq, collectKeys_eq,
    ownKeys_of_body hbody hscheduled, heffective]

-- ========================================================== whoever signs

/-- What the waivers of a configuration say is decided by the body and by
whether the rules authorize it. -/
theorem answers_ofConfig (hbody : t.body = t'.body)
    (h : (config.entities.check t).isAuthorized
      = (config.entities.check t').isAuthorized) :
    (Waivers.ofConfig config).answers t
      = (Waivers.ofConfig config).answers t' := by
  obtain ⟨id, body⟩ := t
  obtain ⟨id', body'⟩ := t'
  obtain rfl : body = body' := hbody
  unfold Waivers.answers Waivers.ofConfig
  dsimp only
  rw [h]

/-- The transaction that signing a schedule runs. -/
theorem effective_scheduleSign {op : ScheduleSign} {m : ScheduleMeta}
    (hm : lookup .schedule op.schedule = .ok m) (id : TransactionId) :
    lookup.effective ⟨id, .scheduleSign op⟩
      = ⟨id.asScheduled (m.designatedPayer.getD id.payer),
        m.scheduledBody⟩ := by
  unfold Lookup.effective Lookup.effectivePayer Lookup.scheduled?
    Lookup.designated?
  dsimp only
  rw [hm]
  rfl

/-- Signing a schedule asks nothing in a scope of its own, so it does not
matter whether the signing itself is scheduled. -/
theorem outcome_scheduleSign_outer (r : Resolver) (id : TransactionId)
    (op : ScheduleSign) :
    r.outcome ⟨id, .scheduleSign op⟩
      = r.outcome ⟨⟨id.payer, id.validStart, false⟩, .scheduleSign op⟩ := by
  rw [outcome_eq, outcome_eq]
  rfl

/-- Two signers of a schedule have one outcome, if the rules authorize what it
holds for both or for neither. -/
theorem outcome_scheduleSign {op : ScheduleSign} {m : ScheduleMeta}
    (hm : lookup .schedule op.schedule = .ok m) {id id' : TransactionId}
    (h : (config.entities.check
          ⟨id.asScheduled (m.designatedPayer.getD id.payer),
            m.scheduledBody⟩).isAuthorized
      = (config.entities.check
          ⟨id'.asScheduled (m.designatedPayer.getD id'.payer),
            m.scheduledBody⟩).isAuthorized) :
    (ofConfig lookup config).outcome ⟨id, .scheduleSign op⟩
      = (ofConfig lookup config).outcome ⟨id', .scheduleSign op⟩ := by
  rw [outcome_scheduleSign_outer, outcome_scheduleSign_outer _ id']
  refine outcome_of_answers rfl rfl ?_
  rw [effective_scheduleSign hm, effective_scheduleSign hm]
  exact answers_ofConfig rfl h

/-- The submitter bears on the order of the other parties through the waivers
only.

- Two transactions of one body and one scheduled flag, whoever pays for them
  and whenever they are valid, have the same order or fail for the same reason
  and entity, if the waivers say the same of what takes effect: of the
  transactions in the schedule, if they run one, and else of themselves.
- With the policy for system entities, a schedule that names who pays is
  resolved alike whoever signs it.
- If it names nobody and two signers are answered differently, it holds the
  update of an account, or the update of a file, or the append to one, and the
  rules authorize this for one of the two signers and not for the other. -/
theorem submitter_only_through_waivers (lookup : Lookup) :
    (∀ (w : Waivers) (t t' : Transaction), t.body = t'.body →
        t.id.scheduled = t'.id.scheduled →
        w.answers (lookup.effective t) = w.answers (lookup.effective t') →
        outcome ⟨lookup, w⟩ t = outcome ⟨lookup, w⟩ t')
      ∧ ∀ (config : SigningConfig) (op : ScheduleSign) (m : ScheduleMeta),
        lookup .schedule op.schedule = .ok m →
        (m.designatedPayer.isSome = true → ∀ id id' : TransactionId,
            (ofConfig lookup config).outcome ⟨id, .scheduleSign op⟩
              = (ofConfig lookup config).outcome ⟨id', .scheduleSign op⟩)
          ∧ (m.designatedPayer = none → ∀ id id' : TransactionId,
            (ofConfig lookup config).outcome ⟨id, .scheduleSign op⟩
              ≠ (ofConfig lookup config).outcome ⟨id', .scheduleSign op⟩ →
            m.scheduledBody.isGoverned = true
              ∧ (config.entities.check
                    ⟨id.asScheduled id.payer, m.scheduledBody⟩).isAuthorized
                ≠ (config.entities.check
                    ⟨id'.asScheduled id'.payer, m.scheduledBody⟩).isAuthorized)
    := by
  refine ⟨fun w t t' hbody hscheduled h => ?_, fun config op m hm => ?_⟩
  · exact outcome_of_answers hbody hscheduled h
  · refine ⟨fun hnamed id id' => ?_, fun hnobody id id' hdiffer => ?_⟩
    · obtain ⟨payer, hpayer⟩ := Option.isSome_iff_exists.1 hnamed
      refine outcome_scheduleSign hm ?_
      rw [hpayer]
      exact congrArg _ (EntityNumbers.check_congr rfl rfl)
    · have hcheck : (config.entities.check
            ⟨id.asScheduled id.payer, m.scheduledBody⟩).isAuthorized
          ≠ (config.entities.check
            ⟨id'.asScheduled id'.payer, m.scheduledBody⟩).isAuthorized := by
        intro heq
        refine hdiffer (outcome_scheduleSign hm ?_)
        rw [hnobody]
        exact heq
      refine ⟨?_, hcheck⟩
      -- of two different answers one is "authorized"
      cases hid : (config.entities.check
          ⟨id.asScheduled id.payer, m.scheduledBody⟩).isAuthorized with
      | true => exact EntityNumbers.isGoverned_of_authorized hid
      | false =>
          rw [hid] at hcheck
          have hid' := Bool.of_not_eq_false hcheck.symm
          exact EntityNumbers.isGoverned_of_authorized hid'

/-- A ledger where every account has its key and every schedule holds the
update of a system account with a new key. Schedule 1801 names the system
administrator to pay for it; the others name nobody. -/
def unclaimed : Lookup :=
  (Sample.everyAccount false).withKind .schedule fun id =>
    .ok ⟨none, if id = .ofNum 1801 then some (.ofNum 50) else none,
      .cryptoUpdate ⟨.ofNum 100, some replacementKey, none, none, none⟩⟩

/-- The signing of a schedule by an account. -/
def signedBy (payer : UInt64) (num : UInt64) : Transaction :=
  Sample.txn (.ofNum payer) (.scheduleSign ⟨.ofNum num⟩)

/-- Who signs does not matter where nothing is waived, nor where the schedule
names who pays; where it names nobody, the administrator is asked for nothing
and anyone else for the account and for its new key. -/
theorem submitter_only_through_waivers_unclaimed :
    outcome ⟨unclaimed, .nothing⟩ (signedBy 1001 1800)
        = outcome ⟨unclaimed, .nothing⟩ (signedBy 50 1800)
      ∧ (ofConfig unclaimed .usual).outcome (signedBy 1001 1801)
        = (ofConfig unclaimed .usual).outcome (signedBy 2 1801)
      ∧ (ofConfig unclaimed .usual).outcome (signedBy 50 1800) = .ok []
      ∧ (ofConfig unclaimed .usual).outcome (signedBy 1001 1800)
        = .ok [⟨Sample.keyOf (.ofNum 100), .scheduled, .standard⟩,
          ⟨replacementKey, .scheduled, .standard⟩]
      ∧ (EntityNumbers.usual.check (unclaimed.effective
            (signedBy 50 1800))).isAuthorized
        ≠ (EntityNumbers.usual.check (unclaimed.effective
            (signedBy 1001 1800))).isAuthorized := by
  have hunwaived : (ofConfig unclaimed .usual).outcome (signedBy 1001 1800)
      = .ok [⟨Sample.keyOf (.ofNum 100), .scheduled, .standard⟩,
        ⟨replacementKey, .scheduled, .standard⟩] := rfl
  have hwaived : (ofConfig unclaimed .usual).outcome (signedBy 50 1800)
      = .ok [] := rfl
  have hsubmitter := submitter_only_through_waivers unclaimed
  refine ⟨hsubmitter.1 .nothing _ _ rfl rfl rfl, ?_, hwaived, hunwaived, ?_⟩
  · exact (hsubmitter.2 .usual ⟨.ofNum 1801⟩ _ rfl).1 rfl _ _
  · refine ((hsubmitter.2 .usual ⟨.ofNum 1800⟩ _ rfl).2 rfl
      (Sample.txnId (.ofNum 50)) (Sample.txnId (.ofNum 1001)) ?_).2
    show (ofConfig unclaimed .usual).outcome (signedBy 50 1800)
      ≠ (ofConfig unclaimed .usual).outcome (signedBy 1001 1800)
    rw [hwaived, hunwaived]
    exact fun h => absurd h (by simp)

end Resolver

end SigningOrder
