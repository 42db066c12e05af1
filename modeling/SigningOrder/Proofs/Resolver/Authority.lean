/-
Deduplication and who can authorize. Deduplication goes by scope and
canonical key and does not look at the rule of an entry, so it may drop an
entry in favour of one under another rule. It still changes nothing about
who can authorize a transaction (`dedup_keeps_authority`), because of two
facts: a key under the relaxed rule comes last and alone, and what satisfies
a key under the usual rule satisfies it under the relaxed one. So an entry
is only ever dropped in favour of one that asks for at least as much.

The update of a file is the exception, and the only one: it puts the relaxed
entry before the usual one, and where the two lists are the same keys the
order is meant to be weaker than what was collected.
-/
import SigningOrder.Proofs.Key.Satisfied
import SigningOrder.Proofs.Order.Dedup
import SigningOrder.Proofs.Resolver.Rule
import SigningOrder.Sample.Ledger

namespace SigningOrder

/-- The list of a relaxed rule has a member. -/
def Activation.Inhabited : Activation → Prop
  | standard => True
  | topLevelFile wacl => wacl.members ≠ []

/-- The WACLs that a lookup answers with have members. No other list can be
built (`KeyList.members_ne_nil_of_make`), so nothing else is stored. -/
def Lookup.WaclsInhabited (lookup : Lookup) : Prop :=
  ∀ (id : FileId) (m : FileMeta), lookup .file id = .ok m →
    ∀ wacl, m.wacl = some wacl → wacl.members ≠ []

/-- An entry that must sign is satisfied by those who signed for the
transaction of its scope. -/
def OrderedKey.Met (signed : Scope → LeafKey → Bool) (o : OrderedKey) : Prop :=
  o.isActive (signed o.scope) = true

variable {signed : Scope → LeafKey → Bool}

/-- What meets an entry under the usual rule meets every entry of the same
identity. -/
theorem OrderedKey.met_of_identity (hsigned : ∀ s, LeafKey.Alike (signed s))
    {a b : OrderedKey} (hid : a.identity = b.identity)
    (ha : a.activation = .standard) (hb : b.activation.Inhabited)
    (hmet : a.Met signed) : b.Met signed := by
  have hscope : a.scope = b.scope := congrArg Prod.fst hid
  have hcanon : a.key.canonical = b.key.canonical := congrArg Prod.snd hid
  unfold OrderedKey.Met OrderedKey.isActive at hmet ⊢
  rw [ha, hscope, Key.isActive_congr (hsigned b.scope) _ _ _ hcanon] at hmet
  cases hrule : b.activation with
  | standard => exact hmet
  | topLevelFile wacl =>
      rw [hrule] at hb
      exact Key.isActive_topLevelFile hb _ hmet

namespace Resolver

variable {r : Resolver} {t : Transaction}

-- ================================================= where relaxed keys stand

/-- Of two entries, the first is under the usual rule, and the second at
most relaxed to one member of a list that has one. -/
def Ranked (a b : OrderedKey) : Prop :=
  a.activation = .standard ∧ b.activation.Inhabited

/-- Entries under the usual rule are ranked in any order. -/
theorem pairwise_ranked_of_standard {keys : List OrderedKey}
    (h : ∀ o ∈ keys, o.activation = .standard) : keys.Pairwise Ranked := by
  refine List.pairwise_of_forall_mem_list fun a ha b hb => ⟨h a ha, ?_⟩
  rw [h b hb]
  exact True.intro

/-- The keys of a file, where it has any, are one entry, and it is relaxed
to a list that has a member. -/
theorem ranked_fileDelete (hwacls : r.lookup.WaclsInhabited) {op : FileDelete}
    {direct : List RequiredKey} (h : r.fileDelete op = .ok direct)
    (scope : Scope) :
    (direct.map (OrderedKey.inScope scope)).Pairwise Ranked
      ∧ ∀ o ∈ direct.map (OrderedKey.inScope scope),
        o.activation.Inhabited := by
  obtain ⟨m, hm, rfl⟩ := fileDelete_eq_ok.1 h
  unfold optionalWacl
  cases hwacl : m.wacl with
  | none => exact ⟨List.Pairwise.nil, List.forall_mem_nil _⟩
  | some wacl =>
      refine ⟨List.pairwise_singleton _ _, ?_⟩
      exact List.forall_mem_singleton.2 (hwacls op.file m hm wacl hwacl)

/-- Whatever takes effect, other than the update of a file, its entries are
ranked, and none is relaxed to an empty list. -/
theorem ranked_directKeys (hwacls : r.lookup.WaclsInhabited)
    (hbody : ∀ op, t.body ≠ .fileUpdate op) {direct : List RequiredKey}
    (h : r.directKeys t = .ok direct) (scope : Scope) :
    (direct.map (OrderedKey.inScope scope)).Pairwise Ranked
      ∧ ∀ o ∈ direct.map (OrderedKey.inScope scope),
        o.activation.Inhabited := by
  by_cases hdrops : t.body.dropsWacl = true
  · obtain ⟨id, body⟩ := t
    cases body with
    | fileUpdate op => exact absurd rfl (hbody op)
    | fileDelete op => exact ranked_fileDelete hwacls h scope
    | _ => cases hdrops
  · rw [Bool.not_eq_true] at hdrops
    have hrule : ∀ o ∈ direct.map (OrderedKey.inScope scope),
        o.activation = .standard :=
      activation_of_mem_inScope (usual_directKeys hdrops direct h)
    refine ⟨pairwise_ranked_of_standard hrule, fun o ho => ?_⟩
    rw [hrule o ho]
    exact True.intro

/-- All that is collected for a transaction is ranked, unless it comes to
the update of a file. -/
theorem ranked_collectKeys (hwacls : r.lookup.WaclsInhabited)
    (hbody : ∀ op, (r.lookup.effective t).body ≠ .fileUpdate op)
    {keys : List OrderedKey} (h : r.collectKeys t = .ok keys) :
    keys.Pairwise Ranked := by
  obtain ⟨own, hown, rest, hrest, rfl⟩ := collectKeys_eq_ok.1 h
  obtain ⟨-, direct, hdirect, rfl⟩ := effectiveKeys_eq_ok.1 hrest
  have hstandard := activation_of_mem_ownKeys hown
  obtain ⟨hranked, hinhabited⟩ := ranked_directKeys hwacls hbody hdirect
    (r.lookup.effective t).id.scope
  refine List.pairwise_append.2
    ⟨pairwise_ranked_of_standard hstandard, hranked, ?_⟩
  exact fun a ha b hb => ⟨hstandard a ha, hinhabited b hb⟩

-- ==================================================== who can authorize it

/-- Deduplication never changes who can authorize a transaction: whoever
signed for each of the two scopes, all keys that were collected are
satisfied exactly when all keys of the order are. -/
theorem dedup_keeps_authority (r : Resolver) (t : Transaction)
    (order : List OrderedKey) (signed : Scope → LeafKey → Bool)
    (hsigned : ∀ s, LeafKey.Alike (signed s))
    (hwacls : r.lookup.WaclsInhabited)
    (hbody : ∀ op, (r.lookup.effective t).body ≠ .fileUpdate op)
    (h : r.keysForOtherParties t = .ok order) :
    ∃ keys, r.collectKeys t = .ok keys ∧ OrderedKey.dedup keys = order
      ∧ ((∀ o ∈ keys, o.Met signed) ↔ ∀ o ∈ order, o.Met signed) := by
  obtain ⟨keys, hkeys, rfl⟩ := keysForOtherParties_eq_ok.1 h
  refine ⟨keys, hkeys, rfl, fun hall o ho => ?_, fun hall => ?_⟩
  · exact hall o (OrderedKey.mem_of_mem_dedup ho)
  · have hpass : keys.Pairwise fun a b =>
        a.identity = b.identity → a.Met signed → b.Met signed := by
      refine (ranked_collectKeys hwacls hbody hkeys).imp ?_
      intro a b hrank hid hmet
      exact OrderedKey.met_of_identity hsigned hid hrank.1 hrank.2 hmet
    exact OrderedKey.forall_mem_of_forall_mem_dedup hpass hall

-- =========================== a payer with the keys of the file it deletes

/-- The keys of two holders. -/
def sharedKeys : KeyList :=
  ⟨[.leaf (.ed25519 [1]), .leaf (.ed25519 [2])]⟩

/-- A ledger where the keys of every account and of every file are those of
the two holders, and every schedule holds the deletion of a file, paid for
by an account that it names. -/
def shared : Lookup :=
  ((Lookup.empty.withKind .account fun _ =>
      .ok ⟨.ofKeyList sharedKeys, false⟩).withKind
    .file fun _ => .ok ⟨some sharedKeys⟩).withKind
    .schedule fun _ => .ok ⟨none, some (.ofNum 1340), .fileDelete ⟨.ofNum 1500⟩⟩

/-- Signs a schedule. -/
def signDeletion : Transaction :=
  Sample.txn (.ofNum 1001) (.scheduleSign ⟨.ofNum 1800⟩)

/-- One of the two holders has signed for the scheduled transaction. -/
def firstHolder : Scope → LeafKey → Bool
  | .outer => LeafKey.signedBy []
  | .scheduled => LeafKey.signedBy [.ed25519 [1]]

/-- The payer of a schedule has the keys of the file that the schedule
deletes. Of the two entries the first stays, and what it asks for is both
holders; the entry that was dropped asks for one of them. -/
theorem dedup_keeps_authority_sharedKeys :
    (∀ s, LeafKey.Alike (firstHolder s)) ∧ shared.WaclsInhabited
      ∧ (∀ op, (shared.effective signDeletion).body ≠ .fileUpdate op)
      ∧ Resolver.keysForOtherParties ⟨shared, .nothing⟩ signDeletion
        = .ok [⟨.ofKeyList sharedKeys, .scheduled, .standard⟩]
      ∧ ∃ keys, Resolver.collectKeys ⟨shared, .nothing⟩ signDeletion = .ok keys
        ∧ OrderedKey.dedup keys
          = [⟨.ofKeyList sharedKeys, .scheduled, .standard⟩]
        ∧ ((∀ o ∈ keys, o.Met firstHolder)
          ↔ ∀ o ∈ [⟨.ofKeyList sharedKeys, .scheduled, .standard⟩],
            OrderedKey.Met firstHolder o) := by
  have hsigned : ∀ s, LeafKey.Alike (firstHolder s) := by
    intro s
    cases s with
    | outer => exact LeafKey.alike_signedBy _
    | scheduled => exact LeafKey.alike_signedBy _
  have hwacls : shared.WaclsInhabited := by
    intro id m hm wacl hwacl
    cases hm
    cases hwacl
    have hmake : KeyList.make sharedKeys.members = .ok sharedKeys := rfl
    exact KeyList.members_ne_nil_of_make hmake
  have hbody : ∀ op,
      (shared.effective signDeletion).body ≠ .fileUpdate op := by
    intro op h
    cases h
  refine ⟨hsigned, hwacls, hbody, rfl, ?_⟩
  exact dedup_keeps_authority ⟨shared, .nothing⟩ signDeletion _ firstHolder
    hsigned hwacls hbody rfl

end Resolver

end SigningOrder
