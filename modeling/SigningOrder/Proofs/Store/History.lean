/-
The store over a history of commits. It keeps records as bytes and publishes
them snapshot by snapshot, and yet it answers as a plain map of records would
(`Ledger.run_refines`): what an entity answers is decided by the last change
about it, be it of the initial snapshot or of a commit that succeeded, and a
commit that failed has no part in it, however far it came.

One commit either publishes what its changes make of the current records, as
the next publication, or publishes nothing (`Ledger.publish_of_succeeds`,
`Ledger.publish_of_fails`); a run is commits one after the other
(`Ledger.run_eq`). What is then stored for an entity is what its last change
has left, and a record is read back from what is written for it.
-/
import SigningOrder.Ledger
import SigningOrder.Proofs.Format.Codec
import SigningOrder.Proofs.Store.Changes

namespace SigningOrder

-- =================================================================== commits

/-- What the caller of a commit does: changes, and behind them perhaps a fault
of its own. -/
structure Commit where
  changes : List Change
  fault : Option DecodeError

namespace Commit

/-- The commit as a step of a builder. -/
def step (c : Commit) (b : Builder) : Except DecodeError Builder := do
  let b ← Change.applyAll b c.changes
  match c.fault with
  | some e => throw e
  | none => return b

/-- Whether the changes can all be made, with no fault behind them. -/
def succeeds (c : Commit) : Bool :=
  c.fault.isNone && c.changes.all Change.isApplicable

end Commit

namespace Ledger

/-- The ledger after commits, one after the other. -/
def run (ledger : Ledger) (commits : List Commit) : Ledger :=
  commits.foldl (fun l c => l.commit c.step) ledger

/-- A commit that succeeds publishes what its changes make of the current
records, as the next publication. -/
theorem publish_of_succeeds {c : Commit} (h : c.succeeds = true)
    (ledger : Ledger) : ∃ records,
      (∀ n, Change.applyAll ⟨ledger.current.records, n⟩ c.changes
        = .ok ⟨records, n⟩)
      ∧ ledger.publish c.step
        = .ok ⟨⟨records, ledger.current.number + 1⟩⟩ := by
  obtain ⟨changes, fault⟩ := c
  rw [Commit.succeeds, Bool.and_eq_true] at h
  obtain ⟨hfault, happlicable⟩ := h
  cases Option.isNone_iff_eq_none.1 hfault
  obtain ⟨records, hrecords⟩ :=
    Change.applyAll_of_isApplicable happlicable ledger.current.records
  have hstep : Commit.step ⟨changes, none⟩ (.ofSnapshot ledger.current)
      = .ok ⟨records, ledger.current.number + 1⟩ :=
    bind_eq_ok.2 ⟨_, hrecords _, rfl⟩
  refine ⟨records, hrecords, ?_⟩
  rw [publish, hstep]
  rfl

/-- A commit that fails publishes nothing, however many of its changes could be
made. -/
theorem publish_of_fails {c : Commit} (h : c.succeeds = false)
    (ledger : Ledger) : ∃ e, ledger.publish c.step = .error e := by
  cases hstep : c.step (.ofSnapshot ledger.current) with
  | error e => exact ⟨.codec e, by rw [publish, hstep]⟩
  | ok b =>
      -- All changes were made, and so it is the fault behind them that fails.
      obtain ⟨middle, hmade, hend⟩ := bind_eq_ok.1 hstep
      have happlicable := Change.isApplicable_of_applyAll hmade
      rw [Commit.succeeds, happlicable, Bool.and_true] at h
      cases hfault : c.fault with
      | none =>
          rw [hfault] at h
          cases h
      | some e =>
          rw [hfault] at hend
          cases hend

/-- A run makes the changes of the commits that succeed, and counts these. -/
theorem run_eq : ∀ (commits : List Commit) (ledger : Ledger), ∃ records,
    (∀ n, Change.applyAll ⟨ledger.current.records, n⟩
      ((commits.filter Commit.succeeds).flatMap Commit.changes)
        = .ok ⟨records, n⟩)
      ∧ ledger.run commits = ⟨⟨records, ledger.current.number
        + .ofNat (commits.filter Commit.succeeds).length⟩⟩
  | [], ledger => by
      refine ⟨ledger.current.records, fun _ => rfl, ?_⟩
      show ledger = ⟨⟨ledger.current.records, ledger.current.number + 0⟩⟩
      rw [UInt64.add_zero]
  | c :: commits, ledger => by
      cases hc : c.succeeds with
      | false =>
          obtain ⟨records, hchanges, hrun⟩ := run_eq commits ledger
          obtain ⟨e, hpublish⟩ := publish_of_fails hc ledger
          rw [List.filter_cons, if_neg (by rw [hc]; decide)]
          refine ⟨records, hchanges, ?_⟩
          rw [run, List.foldl_cons, commit, hpublish]
          exact hrun
      | true =>
          obtain ⟨middle, hfirst, hpublish⟩ := publish_of_succeeds hc ledger
          obtain ⟨records, hchanges, hrun⟩ :=
            run_eq commits ⟨⟨middle, ledger.current.number + 1⟩⟩
          rw [List.filter_cons, if_pos hc, List.flatMap_cons, List.length_cons]
          refine ⟨records, fun n => ?_, ?_⟩
          · rw [Change.applyAll, List.foldlM_append]
            exact bind_eq_ok.2 ⟨_, hfirst n, hchanges n⟩
          · rw [run, List.foldl_cons, commit, hpublish, Nat.add_comm,
              UInt64.ofNat_add, ← UInt64.add_assoc]
            exact hrun

end Ledger

-- =================================================================== lookups

/-- What a lookup answers for a record: what bears on signing where it is live,
and otherwise that its entity is absent. -/
def Record.answer {kind : EntityKind} (id : EntityId kind) (r : Record kind) :
    Except LookupError (Meta kind) :=
  if Record.isLive kind r then .ok (Record.signingMeta kind r)
  else .error (.failure kind.absence id.ref)

namespace Snapshot

variable {s : Snapshot} {kind : EntityKind} {id : EntityId kind}

/-- An entity without a record is absent. -/
theorem lookup_of_none (h : s.records.find? id.ref = none) :
    s.lookup kind id = .error (.failure kind.absence id.ref) := by
  rw [lookup, read, h]
  rfl

/-- An entity with the bytes of a record answers for the record. -/
theorem lookup_of_record {bytes : Bytes} {r : Record kind}
    (h : s.records.find? id.ref = some bytes)
    (hr : (Record.format kind).decodeValue bytes = .ok r) :
    s.lookup kind id = Record.answer id r := by
  rw [lookup, read, h]
  dsimp only
  rw [hr]
  rfl

/-- An entity with bytes that are no record is a fault of the store. -/
theorem lookup_of_fault {bytes : Bytes} {e : DecodeError}
    (h : s.records.find? id.ref = some bytes)
    (he : (Record.format kind).decodeValue bytes = .error e) :
    s.lookup kind id = .error (.backend id.ref e.message) := by
  rw [lookup, read, h]
  dsimp only
  rw [he]
  rfl

end Snapshot

/-- How the last change about an entity decides an answer for it. The fields go
through all that this change can be (`Change.lastOn_cases`). -/
structure DecidedBy {kind : EntityKind} (id : EntityId kind)
    (history : List Change) (answer : Except LookupError (Meta kind)) :
    Prop where
  untouched : Change.lastOn id.ref history = none →
    answer = .error (.failure kind.absence id.ref)
  removed : Change.lastOn id.ref history = some (.remove id.ref) →
    answer = .error (.failure kind.absence id.ref)
  put : ∀ r, Change.lastOn id.ref history = some (.put kind id r) →
    (Record.format kind).fits r → answer = Record.answer id r
  unreadable : ∀ bytes e,
    Change.lastOn id.ref history = some (.putEncoded id.ref bytes) →
    (Record.format kind).decodeValue bytes = .error e →
      answer = .error (.backend id.ref e.message)
  readable : ∀ bytes r,
    Change.lastOn id.ref history = some (.putEncoded id.ref bytes) →
    (Record.format kind).decodeValue bytes = .ok r →
      answer = Record.answer id r
  replayed : ∀ bytes,
    Change.lastOn id.ref history = some (.replay id.ref bytes) →
    ∃ r, (Record.format kind).decodeValue bytes = .ok r
      ∧ answer = Record.answer id r

/-- Answers from the records that a history leaves are decided by the last
change about each entity. -/
theorem Snapshot.lookup_decidedBy {s : Snapshot} {history : List Change}
    {n : UInt64} (h : Change.applyAll .empty history = .ok ⟨s.records, n⟩)
    {kind : EntityKind} (id : EntityId kind) :
    DecidedBy id history (s.lookup kind id) := by
  have hfound {last : Option Change}
      (hlast : Change.lastOn id.ref history = last) :
      s.records.find? id.ref = last.bind Change.stored? := by
    have hlookup := Change.find?_applyAll id.ref h
    rw [hlast] at hlookup
    cases last <;> exact hlookup
  refine ⟨fun hlast => ?_, fun hlast => ?_, fun r hlast hfits => ?_,
    fun bytes e hlast he => ?_, fun bytes r hlast hr => ?_,
    fun bytes hlast => ?_⟩
  · exact lookup_of_none (hfound hlast)
  · exact lookup_of_none (hfound hlast)
  · -- Nothing is behind a stored record.
    have hread := Format.decodeValue_encode hfits []
    rw [List.append_nil] at hread
    exact lookup_of_record (hfound hlast) hread
  · exact lookup_of_fault (hfound hlast) he
  · exact lookup_of_record (hfound hlast) hr
  · have happlicable := List.all_eq_true.1 (Change.isApplicable_of_applyAll h)
      _ (Change.mem_of_lastOn hlast)
    obtain ⟨r, hr⟩ := Change.isApplicable_replay happlicable
    have hstored := (hfound hlast).trans (Change.stored?_replay hr)
    exact ⟨r, hr, lookup_of_record hstored (Format.decodeValue_reencoded hr).2⟩

-- ======================================================== the whole history

namespace Ledger

/-- The store refines a plain map of records. From any initial snapshot and
through any commits, each with any changes and a fault behind them or none:
the current records are those that the initial changes and then the changes of
the commits that succeeded make of none; the sequence is the number of these
commits, as long as that is a number of 64 bits; and every lookup is decided by
the last of these changes that is about its entity. -/
theorem run_refines {initial : List Change} {start : Builder}
    (hstart : Change.applyAll .empty initial = .ok start)
    (commits : List Commit) :
    let current := (run ⟨start.build⟩ commits).current
    let made := commits.filter Commit.succeeds
    let history := initial ++ made.flatMap Commit.changes
    (∃ n, Change.applyAll .empty history = .ok ⟨current.records, n⟩)
      ∧ (made.length < 2 ^ 64 → current.sequence = made.length)
      ∧ ∀ {kind : EntityKind} (id : EntityId kind),
        DecidedBy id history (current.lookup kind id) := by
  have happlicable := Change.isApplicable_of_applyAll hstart
  obtain ⟨initialRecords, hinitial⟩ :=
    Change.applyAll_of_isApplicable happlicable []
  cases (hinitial 0).symm.trans hstart
  obtain ⟨records, hchanges, hrun⟩ := run_eq commits ⟨⟨initialRecords, 0⟩⟩
  have hall : Change.applyAll .empty
      (initial ++ (commits.filter Commit.succeeds).flatMap Commit.changes)
        = .ok ⟨records, 0⟩ := by
    rw [Change.applyAll, List.foldlM_append]
    exact bind_eq_ok.2 ⟨_, hinitial 0, hchanges 0⟩
  dsimp only [Builder.build]
  rw [hrun, UInt64.zero_add]
  exact ⟨⟨0, hall⟩, UInt64.toNat_ofNat_of_lt',
    fun id => Snapshot.lookup_decidedBy hall id⟩

-- ========================================================== a failed commit

/-- An account of one holder. -/
def holderRecord : AccountRecord :=
  ⟨.leaf (.ed25519 [1]), true, 100, false⟩

/-- A commit that removes the account and fails, and one that stores a file
that is none. -/
def holderCommits : List Commit :=
  [⟨[.remove (EntityId.ref (.ofNum 1001 : AccountId))], some .badText⟩,
    ⟨[.putEncoded (EntityId.ref (.ofNum 150 : FileId)) [2]], none⟩]

/-- The failed commit has removed nothing and is not counted; the file is a
fault of the store; and a topic of the number of the account is absent. -/
theorem run_refines_holder :
    let start := Builder.empty.put (.ofNum 1001 : AccountId) holderRecord
    let current := (run ⟨start.build⟩ holderCommits).current
    Change.applyAll .empty [.put .account (.ofNum 1001) holderRecord] = .ok start
      ∧ current.sequence = 1
      ∧ current.lookup .account (.ofNum 1001)
        = .ok ⟨.leaf (.ed25519 [1]), true⟩
      ∧ current.lookup .file (.ofNum 150)
        = .error (.backend (EntityId.ref (.ofNum 150 : FileId))
          DecodeError.badOption.message)
      ∧ current.lookup .topic (.ofNum 1001)
        = .error (.failure .missingTopic
          (EntityId.ref (.ofNum 1001 : TopicId))) := by
  have hstart : Change.applyAll .empty
      [.put .account (.ofNum 1001) holderRecord]
        = .ok (Builder.empty.put (.ofNum 1001 : AccountId) holderRecord) := rfl
  have hkey : Key.Writable (.leaf (.ed25519 [1])) := by
    simp [Key.Writable, Key.Valid, Key.WellFormed, Key.depth, Key.maxKeyDepth,
      Key.CountsFit, Key.nodes, LeafKey.ed25519, UInt64.size]
  obtain ⟨-, hsequence, hlookup⟩ := run_refines hstart holderCommits
  refine ⟨hstart, hsequence (by decide), ?_, ?_, ?_⟩
  · exact (hlookup (.ofNum 1001 : AccountId)).put holderRecord rfl
      ⟨hkey, True.intro, True.intro, True.intro⟩
  · exact (hlookup (.ofNum 150 : FileId)).unreadable [2] .badOption rfl rfl
  · exact (hlookup (.ofNum 1001 : TopicId)).untouched rfl

end Ledger

end SigningOrder
