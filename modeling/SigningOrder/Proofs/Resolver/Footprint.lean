/-
What an outcome depends on. The footprint of a transaction is the payer, and
the entities that resolution may ask for: those of the operation, and where it
runs a schedule, the schedule, the account that is to pay, and those of the
transaction in it. For a signing they are read from what is stored, so the
footprint is one of a lookup; whoever agrees with that lookup on it agrees on
what is stored, too.

Both outcomes are functions of the answers for the footprint
(`outcomes_determined_by_footprint`). Nothing else that a ledger holds has a
part in them, be it the treasury of a token or the auto-renew account of a
topic, and a commit that changes none of these entities changes neither.
-/
import SigningOrder.Proofs.Resolver.Asks
import SigningOrder.Proofs.Resolver.Scheduled
import SigningOrder.Proofs.Store.History

namespace SigningOrder

/-- The entities that both outcomes of a transaction depend on. -/
def Lookup.footprint (lookup : Lookup) (t : Transaction) : List EntityRef :=
  t.payer.ref :: (lookup.ownDemands t
    ++ (lookup.effective t).body.demands).filterMap Demand.entity?

namespace Resolver

/-- The outcome for the payer, and that for all other parties. -/
def outcomes (r : Resolver) (t : Transaction) :
    Except OrderingFailure (List OrderedKey)
      × Except OrderingFailure (List OrderedKey) :=
  (r.keysForPayer t, r.keysForOtherParties t)

variable {r : Resolver} {t : Transaction} {l' : Lookup}

/-- The entity of whatever is demanded is in the footprint. -/
theorem mem_footprint_of_demand {d : Demand} {e : EntityRef}
    (hd : d ∈ r.allDemands t) (he : d.entity? = some e) :
    e ∈ r.lookup.footprint t := by
  refine List.mem_cons_of_mem _ (List.mem_filterMap.2 ?_)
  cases demanded_of_mem hd with
  | own hown => exact ⟨d, List.mem_append_left _ hown, he⟩
  | direct hbody hdirect =>
      refine ⟨d, List.mem_append_right _ ?_, he⟩
      rw [Lookup.effective_of_not_scheduled hbody]
      exact hdirect
  | schedulable hbody => cases he
  | @held body inner hbody hheld =>
      rw [Demand.entity?_inSchedule] at he
      refine ⟨inner, List.mem_append_right _ ?_, he⟩
      rw [Lookup.effective_of_scheduled hbody]
      exact hheld

/-- Two lookups that answer alike for the payer have one outcome for it. -/
theorem keysForPayer_congr
    (h : l' .account t.payer = r.lookup .account t.payer) :
    keysForPayer ⟨l', r.waivers⟩ t = r.keysForPayer t := by
  unfold keysForPayer payerKeys
  dsimp only
  rw [h]

/-- Two lookups that answer alike on the footprint have the same outcomes. -/
theorem outcomes_congr
    (h : ∀ e ∈ r.lookup.footprint t, l' e.kind e.id = r.lookup e.kind e.id) :
    outcomes ⟨l', r.waivers⟩ t = r.outcomes t := by
  have hpayer : l' .account t.payer = r.lookup .account t.payer :=
    h t.payer.ref List.mem_cons_self
  have hothers : r.lookup.AgreesOn (r.allDemands t) l' :=
    fun d hd e he => h e (mem_footprint_of_demand hd he)
  unfold outcomes
  rw [keysForPayer_congr hpayer, keysForOtherParties_congr hothers]

end Resolver

-- =================================================================== a commit

/-- A snapshot answers for an entity from its record alone. -/
theorem Snapshot.lookup_congr {s s' : Snapshot} {e : EntityRef}
    (h : s'.records.find? e = s.records.find? e) :
    s'.lookup e.kind e.id = s.lookup e.kind e.id := by
  have hread : s'.read e.kind e.id = s.read e.kind e.id := by
    unfold read
    rw [show e.id.ref = e from rfl, h]
  unfold lookup
  rw [hread]

/-- A commit leaves an entity that none of its changes is about. -/
theorem Ledger.find?_commit (ledger : Ledger) {c : Commit} {e : EntityRef}
    (h : ∀ change ∈ c.changes, change.entity ≠ e) :
    (ledger.commit c.step).current.records.find? e
      = ledger.current.records.find? e := by
  unfold commit
  cases hc : c.succeeds with
  | false =>
      obtain ⟨fault, hpublish⟩ := publish_of_fails hc ledger
      rw [hpublish]
  | true =>
      obtain ⟨records, hchanges, hpublish⟩ := publish_of_succeeds hc ledger
      have hlast : Change.lastOn e c.changes = none := by
        refine List.find?_eq_none.2 fun change hchange => ?_
        rw [decide_eq_true_eq]
        exact h change (List.mem_reverse.1 hchange)
      have hfound := Change.find?_applyAll e (hchanges 0)
      rw [hpublish]
      rw [hlast] at hfound
      exact hfound

namespace Resolver

/-- Both outcomes depend on the entities that the transaction names, and on
nothing else: two lookups that answer alike for the payer and the entities
that are asked for, through a schedule those that it holds, have the same
outcomes; and so a commit that changes none of these entities leaves both. -/
theorem outcomes_determined_by_footprint (w : Waivers) (t : Transaction) :
    (∀ l l' : Lookup,
      (∀ e ∈ l.footprint t, l' e.kind e.id = l e.kind e.id) →
        outcomes ⟨l', w⟩ t = outcomes ⟨l, w⟩ t)
      ∧ ∀ (ledger : Ledger) (c : Commit),
        (∀ change ∈ c.changes,
          change.entity ∉ ledger.current.lookup.footprint t) →
        outcomes ⟨(ledger.commit c.step).current.lookup, w⟩ t
          = outcomes ⟨ledger.current.lookup, w⟩ t := by
  have hlookups (l l' : Lookup)
      (h : ∀ e ∈ l.footprint t, l' e.kind e.id = l e.kind e.id) :
      outcomes ⟨l', w⟩ t = outcomes ⟨l, w⟩ t :=
    outcomes_congr (r := ⟨l, w⟩) h
  refine ⟨hlookups, fun ledger c huntouched => hlookups _ _ fun e he => ?_⟩
  have hfound := Ledger.find?_commit ledger
    fun change hchange heq => huntouched change hchange (heq ▸ he)
  exact Snapshot.lookup_congr hfound

-- ================================================== the signing of a deletion

/-- A lookup that knows some entities only. -/
def knowing (l : Lookup) (es : List EntityRef) : Lookup := fun _ id =>
  if id.ref ∈ es then l _ id else .error (.absent id)

/-- A store with the account of the payer. -/
def payerOnly : Ledger :=
  ⟨(Builder.empty.put (.ofNum 1001 : AccountId) Ledger.holderRecord).build⟩

/-- Stores a topic with the number of the payer, and drops a file. -/
def elsewhere : Commit where
  changes :=
    [.put .topic (.ofNum 1001) ⟨none, none, none, false⟩,
      .remove (EntityId.ref (.ofNum 50 : FileId))]
  fault := none

/-- Signs the schedule that holds the deletion, on a lookup that knows the
footprint and nothing else; and on the store of the payer, before and after a
commit about a topic and a file with numbers of accounts that it names. -/
theorem outcomes_determined_by_footprint_bequest :
    let t := signSchedule 1800
    let l := estate.lookup
    l.footprint t
        = [EntityId.ref (.ofNum 1001 : AccountId),
          EntityId.ref (.ofNum 1800 : ScheduleId),
          EntityId.ref (.ofNum 50 : AccountId),
          EntityId.ref (.ofNum 100 : AccountId),
          EntityId.ref (.ofNum 50 : AccountId)]
      ∧ outcomes ⟨knowing l (l.footprint t), .nothing⟩ t
        = (.ok [.outer (Sample.keyOf (.ofNum 1001))],
          .ok [⟨Sample.keyOf (.ofNum 50), .scheduled, .standard⟩,
            ⟨Sample.keyOf (.ofNum 100), .scheduled, .standard⟩])
      ∧ outcomes ⟨(payerOnly.commit elsewhere.step).current.lookup, .nothing⟩ t
        = outcomes ⟨payerOnly.current.lookup, .nothing⟩ t := by
  intro t l
  have hknown : ∀ e ∈ l.footprint t,
      knowing l (l.footprint t) e.kind e.id = l e.kind e.id :=
    fun e he => if_pos he
  refine ⟨rfl, ?_, ?_⟩
  · rw [(outcomes_determined_by_footprint .nothing t).1 l _ hknown]
    rfl
  · exact (outcomes_determined_by_footprint .nothing t).2 payerOnly elsewhere
      (by decide)

end Resolver

end SigningOrder
