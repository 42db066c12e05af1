/-
What changes make of a store. A table of records is seen through
`RecordTable.find?` alone: putting a record changes what is found for its
entity and for no other, and so does dropping one. A change is then known by
the entity that it is about and by the bytes that it leaves there
(`Change.find?_apply`), and a list of changes by its last change about each
entity (`Change.find?_applyAll`).

Whether changes can be made depends on the changes and not on the builder that
they are made to, and what they make of its records does not depend on the
number of the publication (`Change.applyAll_of_isApplicable`).
-/
import SigningOrder.Proofs.Chain
import SigningOrder.Snapshot

namespace SigningOrder

-- =================================================================== tables

namespace EntityRef

/-- References are equal if all that their order compares is equal. -/
theorem sortKey_inj {a b : EntityRef} : a.sortKey = b.sortKey ↔ a = b := by
  constructor
  · intro h
    obtain ⟨kind, shard, realm, num⟩ := a
    obtain ⟨kind', shard', realm', num'⟩ := b
    simp only [sortKey, List.cons.injEq] at h
    obtain ⟨hkind, hshard, hrealm, hnum, -⟩ := h
    have hkind : kind = kind' := by
      cases kind <;> cases kind' <;> first | rfl | cases hkind
    subst hkind
    rw [UInt64.toNat_inj.1 hshard, UInt64.toNat_inj.1 hrealm,
      UInt64.toNat_inj.1 hnum]
  · rintro rfl
    rfl

/-- The order of references finds no two of them equal. -/
theorem compare_eq_iff {a b : EntityRef} : a.compare b = .eq ↔ a = b := by
  unfold compare
  rw [Std.LawfulEqCmp.compare_eq_iff_eq, sortKey_inj]

end EntityRef

namespace RecordTable

/-- The first entry of a table is found for its own entity. -/
theorem find?_cons (e f : EntityRef) (bytes : Bytes) (table : RecordTable) :
    find? e ((f, bytes) :: table)
      = if f = e then some bytes else find? e table := by
  unfold find?
  rw [List.find?_cons]
  by_cases h : f = e
  · rw [if_pos h, decide_eq_true h]
    rfl
  · rw [if_neg h, decide_eq_false h]

/-- A record that is put is found for its entity, and others as before. -/
theorem find?_insert (e f : EntityRef) (bytes : Bytes) (table : RecordTable) :
    find? f (table.insert e bytes)
      = if e = f then some bytes else find? f table := by
  induction table with
  | nil => exact find?_cons f e bytes []
  | cons entry table ih =>
      obtain ⟨g, other⟩ := entry
      rw [insert]
      cases horder : e.compare g with
      | lt =>
          -- An older record further on would be hidden, and not found.
          exact find?_cons f e bytes _
      | eq =>
          cases EntityRef.compare_eq_iff.1 horder
          dsimp only
          rw [find?_cons, find?_cons]
          by_cases h : e = f
          · rw [if_pos h, if_pos h]
          · rw [if_neg h, if_neg h, if_neg h]
      | gt =>
          have hne : e ≠ g := by
            intro heq
            rw [EntityRef.compare_eq_iff.2 heq] at horder
            cases horder
          dsimp only
          rw [find?_cons, find?_cons, ih]
          by_cases h : e = f
          · rw [if_pos h, if_pos h, if_neg (fun hg => hne (h.trans hg.symm))]
          · rw [if_neg h, if_neg h]

/-- A record that is dropped is not found, and others are found as before. -/
theorem find?_erase (e f : EntityRef) (table : RecordTable) :
    find? f (table.erase e) = if e = f then none else find? f table := by
  induction table with
  | nil =>
      by_cases h : e = f
      · rw [if_pos h]
        rfl
      · rw [if_neg h]
        rfl
  | cons entry table ih =>
      obtain ⟨g, other⟩ := entry
      unfold erase at ih ⊢
      rw [List.filter_cons, find?_cons]
      by_cases hg : g = e
      · rw [if_neg (by simp [hg]), ih]
        by_cases h : e = f
        · rw [if_pos h, if_pos h]
        · rw [if_neg h, if_neg h, if_neg (fun h' => h (hg.symm.trans h'))]
      · rw [if_pos (by simp [hg]), find?_cons, ih]
        by_cases h : e = f
        · rw [if_pos h, if_pos h, if_neg (fun h' => hg (h'.trans h.symm))]
        · rw [if_neg h, if_neg h]

end RecordTable

-- =================================================================== changes

namespace Change

/-- The entity that a change is about. -/
def entity : Change → EntityRef
  | put _ id _ => id.ref
  | putEncoded e _ => e
  | replay e _ => e
  | remove e => e

/-- The bytes that a change leaves for its entity. -/
def stored? : Change → Option Bytes
  | put kind _ record => some ((Record.format kind).encode record)
  | putEncoded _ bytes => some bytes
  | replay e bytes =>
    match (Record.format e.kind).decodeValue bytes with
    | .ok record => some ((Record.format e.kind).encode record)
    | .error _ => none
  | remove _ => none

/-- A replay leaves the record that it has read. -/
theorem stored?_replay {e : EntityRef} {bytes : Bytes} {record : Record e.kind}
    (h : (Record.format e.kind).decodeValue bytes = .ok record) :
    (replay e bytes).stored? = some ((Record.format e.kind).encode record) := by
  rw [stored?, h]

/-- Whether a change can be made: what is replayed must be a record. -/
def isApplicable : Change → Bool
  | put _ _ _ => true
  | putEncoded _ _ => true
  | replay e bytes => ((Record.format e.kind).decodeValue bytes).isOk
  | remove _ => true

/-- What can be replayed is a record. -/
theorem isApplicable_replay {e : EntityRef} {bytes : Bytes}
    (h : (replay e bytes).isApplicable = true) :
    ∃ record, (Record.format e.kind).decodeValue bytes = .ok record := by
  rw [isApplicable] at h
  cases hrecord : (Record.format e.kind).decodeValue bytes with
  | ok record => exact ⟨record, rfl⟩
  | error fault =>
      rw [hrecord] at h
      cases h

/-- The last of the changes that are about an entity. -/
def lastOn (e : EntityRef) (changes : List Change) : Option Change :=
  changes.reverse.find? fun c => c.entity = e

/-- The last change about an entity is about it. -/
theorem entity_of_lastOn {e : EntityRef} {changes : List Change} {c : Change}
    (h : lastOn e changes = some c) : c.entity = e :=
  of_decide_eq_true
    (List.find?_some (p := fun c : Change => decide (c.entity = e)) h)

/-- The last change about an entity is among the changes. -/
theorem mem_of_lastOn {e : EntityRef} {changes : List Change} {c : Change}
    (h : lastOn e changes = some c) : c ∈ changes :=
  List.mem_reverse.1 (List.mem_of_find?_eq_some h)

/-- There is no last change about an entity, or it puts a record of the kind of
the entity or bytes, replays or removes. -/
theorem lastOn_cases {kind : EntityKind} (id : EntityId kind)
    (changes : List Change) :
    lastOn id.ref changes = none
      ∨ (∃ record, lastOn id.ref changes = some (.put kind id record))
      ∨ (∃ bytes, lastOn id.ref changes = some (.putEncoded id.ref bytes))
      ∨ (∃ bytes, lastOn id.ref changes = some (.replay id.ref bytes))
      ∨ lastOn id.ref changes = some (.remove id.ref) := by
  cases hlast : lastOn id.ref changes with
  | none => exact .inl rfl
  | some c =>
      have hentity := entity_of_lastOn hlast
      cases c with
      | put kind' id' record =>
          cases hentity
          exact .inr (.inl ⟨record, rfl⟩)
      | putEncoded e bytes =>
          cases hentity
          exact .inr (.inr (.inl ⟨bytes, rfl⟩))
      | replay e bytes =>
          cases hentity
          exact .inr (.inr (.inr (.inl ⟨bytes, rfl⟩)))
      | remove e =>
          cases hentity
          exact .inr (.inr (.inr (.inr rfl)))

/-- A change in front is the last about an entity where no other is. -/
theorem lastOn_cons (e : EntityRef) (c : Change) (changes : List Change) :
    lastOn e (c :: changes)
      = (lastOn e changes).or (if c.entity = e then some c else none) := by
  unfold lastOn
  rw [List.reverse_cons, List.find?_append, List.find?_singleton]
  by_cases h : c.entity = e
  · rw [if_pos h, if_pos (decide_eq_true h)]
  · rw [if_neg h, if_neg (by rw [decide_eq_false h]; decide)]

-- ================================================================= one change

/-- A change leaves its bytes for its entity, and others as they were. -/
theorem find?_apply (e : EntityRef) {b b' : Builder} {c : Change}
    (h : apply b c = .ok b') : b'.records.find? e
      = if c.entity = e then c.stored? else b.records.find? e := by
  cases c with
  | put kind id record =>
      cases h
      exact RecordTable.find?_insert _ e _ _
  | putEncoded f bytes =>
      cases h
      exact RecordTable.find?_insert f e _ _
  | replay f bytes =>
      obtain ⟨record, hrecord, h⟩ := bind_eq_ok.1 h
      cases pure_eq_ok.1 h
      rw [stored?_replay hrecord]
      exact RecordTable.find?_insert f e _ _
  | remove f =>
      cases h
      exact RecordTable.find?_erase f e _

/-- Whether a change can be made does not depend on the builder, and what it
makes of the records does not depend on the number of the publication. -/
theorem apply_of_isApplicable {c : Change} (h : c.isApplicable = true)
    (records : RecordTable) :
    ∃ records', ∀ n, apply ⟨records, n⟩ c = .ok ⟨records', n⟩ := by
  cases c with
  | put kind id record =>
      exact ⟨records.insert id.ref ((Record.format kind).encode record),
        fun _ => rfl⟩
  | putEncoded e bytes => exact ⟨records.insert e bytes, fun _ => rfl⟩
  | replay e bytes =>
      obtain ⟨record, hrecord⟩ := isApplicable_replay h
      exact ⟨records.insert e ((Record.format e.kind).encode record),
        fun _ => bind_eq_ok.2 ⟨record, hrecord, rfl⟩⟩
  | remove e => exact ⟨records.erase e, fun _ => rfl⟩

/-- A change that was made can be made. -/
theorem isApplicable_of_apply {b b' : Builder} {c : Change}
    (h : apply b c = .ok b') : c.isApplicable = true := by
  cases c with
  | put kind id record => rfl
  | putEncoded e bytes => rfl
  | replay e bytes =>
      obtain ⟨record, hrecord, -⟩ := bind_eq_ok.1 h
      rw [isApplicable, hrecord]
      rfl
  | remove e => rfl

-- =============================================================== many changes

/-- Changes that can all be made are made, to the records alone. -/
theorem applyAll_of_isApplicable : ∀ {changes : List Change},
    changes.all isApplicable = true → ∀ records,
      ∃ records', ∀ n, applyAll ⟨records, n⟩ changes = .ok ⟨records', n⟩
  | [], _, records => ⟨records, fun _ => rfl⟩
  | c :: changes, h, records => by
      rw [List.all_cons, Bool.and_eq_true] at h
      obtain ⟨middle, hmiddle⟩ := apply_of_isApplicable h.1 records
      obtain ⟨records', hrest⟩ := applyAll_of_isApplicable h.2 middle
      exact ⟨records', fun n => bind_eq_ok.2 ⟨_, hmiddle n, hrest n⟩⟩

/-- Changes that were made can all be made. -/
theorem isApplicable_of_applyAll : ∀ {changes : List Change} {b b' : Builder},
    applyAll b changes = .ok b' → changes.all isApplicable = true
  | [], _, _, _ => rfl
  | c :: changes, b, b', h => by
      obtain ⟨middle, hc, h⟩ := bind_eq_ok.1 h
      rw [List.all_cons, Bool.and_eq_true]
      exact ⟨isApplicable_of_apply hc, isApplicable_of_applyAll h⟩

/-- What is found after changes is what the last change about the entity has
left, and what was there before if none was about it. -/
theorem find?_applyAll (e : EntityRef) : ∀ {changes : List Change}
    {b b' : Builder}, applyAll b changes = .ok b' → b'.records.find? e
      = match lastOn e changes with
        | some c => c.stored?
        | none => b.records.find? e
  | [], _, _, h => by
      cases h
      rfl
  | c :: changes, b, b', h => by
      obtain ⟨middle, hc, h⟩ := bind_eq_ok.1 h
      have hrest := find?_applyAll e h
      rw [lastOn_cons, hrest]
      cases lastOn e changes with
      | some last => rfl
      | none =>
          dsimp only
          rw [find?_apply e hc, Option.none_or]
          by_cases hentity : c.entity = e
          · rw [if_pos hentity, if_pos hentity]
          · rw [if_neg hentity, if_neg hentity]

end Change

end SigningOrder
