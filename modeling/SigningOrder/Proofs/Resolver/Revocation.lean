/-
Giving up a WACL. Whoever deletes a file, or puts its keys in again in an equal
list, needs one of the keys of the file and not all of them. The rule for this
is looked up at every list of the key, at any depth, so it might relax a list
inside of the WACL as well. It does not (`revocation_relaxes_top`): a list that
decodes to the same as the WACL is as high as the WACL, and whatever is inside
of the WACL is lower (`Inside.depth_lt`).

Below that height the rule is the usual one, for what a key needs and for when
it is satisfied (`needs_eq_of_depth_lt`, `isActive_eq_of_depth_lt`), and neither
depends on how signing treats encodings. What remains is that the order holds
the relaxed entry alone. An update asks for the new keys as well, under the
usual rule, and behind an entry that decodes to the same they are dropped.
-/
import SigningOrder.Proofs.Key.Canonical
import SigningOrder.Proofs.Resolver.Rule
import SigningOrder.Proofs.Resolver.Wacl

namespace SigningOrder

namespace Key

variable {rule : Activation} {signed : LeafKey → Bool} {wacl : KeyList}

theorem needsOf_eq (ks : List Key) :
    needsOf rule ks = ks.flatMap (needs rule) := by
  induction ks with
  | nil => rfl
  | cons k ks ih => rw [needsOf, ih, List.flatMap_cons]

-- ===================================================== below the relaxed list

/-- A list that decodes to the same as the list of the rule is as high. -/
theorem depth_eq_of_copy {ks : List Key} (h : sameKeys ks wacl.members = true) :
    (list ks).depth = (ofKeyList wacl).depth := by
  have hsame : (list ks).sameKey (ofKeyList wacl) = true := h
  exact (alike_of_outline (outline_of_sameKey hsame)).2.2

theorem neededForList_of_depth_lt {ks : List Key}
    (h : (list ks).depth < (ofKeyList wacl).depth) :
    (Activation.topLevelFile wacl).neededForList ks = ks.length := by
  refine Activation.neededForList_other fun hsame => ?_
  have heq := depth_eq_of_copy hsame
  omega

/-- The members of a key that is lower than a list are lower, too. -/
theorem depth_members_lt {whole : Key} {n : Nat} (h : whole.depth < n) :
    ∀ k ∈ whole.members, k.depth < n :=
  fun _ hk => Nat.lt_trans (depth_lt_of_mem hk) h

/-- A key that is lower than the list of the rule needs what it usually does. -/
theorem needs_eq_of_depth_lt {k : Key} (h : k.depth < (ofKeyList wacl).depth) :
    k.needs (.topLevelFile wacl) = k.needs .standard := by
  have hmembers : ∀ ks : List Key,
      (∀ k ∈ ks, k.needs (.topLevelFile wacl) = k.needs .standard) →
      needsOf (.topLevelFile wacl) ks = needsOf .standard ks := by
    intro ks hks
    rw [needsOf_eq, needsOf_eq, List.flatMap_def, List.flatMap_def,
      List.map_congr_left hks]
  induction k using ind with
  | leaf l => rw [needs, needs]
  | list ks ih =>
      have hlower := depth_members_lt h
      rw [needs, needs, neededForList_of_depth_lt h,
        hmembers ks fun k hk => ih k hk (hlower k hk)]
      rfl
  | threshold n ks ih =>
      have hlower := depth_members_lt h
      rw [needs, needs, hmembers ks fun k hk => ih k hk (hlower k hk)]

/-- Such a key is satisfied by what usually satisfies it. -/
theorem isActive_eq_of_depth_lt {k : Key} (h : k.depth < (ofKeyList wacl).depth) :
    k.isActive (.topLevelFile wacl) signed = k.isActive .standard signed := by
  refine isActive_eq (fun _ _ => rfl) fun ks hks => ?_
  exact neededForList_of_depth_lt (Nat.lt_of_le_of_lt hks.depth_le h)

-- =========================================================== the list itself

variable {again : KeyList}

theorem depth_eq_of_sameKeys (h : wacl.sameKeys again = true) :
    (ofKeyList wacl).depth = (ofKeyList again).depth :=
  depth_eq_of_copy h

/-- A key inside of a WACL is lower than any list that is the same keys. -/
theorem Inside.depth_lt_of_sameKeys {k : Key} (hsame : wacl.sameKeys again = true)
    (h : k.Inside (ofKeyList wacl)) : k.depth < (ofKeyList again).depth := by
  rw [← depth_eq_of_sameKeys hsame]
  exact h.depth_lt

/-- Under the rule for a list that is the same keys, a WACL needs one of its
members, and everything inside of it what it usually does. -/
theorem needs_ofKeyList (hsame : wacl.sameKeys again = true) :
    (ofKeyList wacl).needs (.topLevelFile again)
      = 1 :: needsOf .standard wacl.members := by
  have hmembers : ∀ k ∈ wacl.members,
      k.needs (.topLevelFile again) = k.needs .standard := fun k hk =>
    needs_eq_of_depth_lt ((Inside.member hk).depth_lt_of_sameKeys hsame)
  rw [ofKeyList, needs, Activation.neededForList_copy hsame, needsOf_eq,
    needsOf_eq, List.flatMap_def, List.flatMap_def, List.map_congr_left hmembers]

/-- It is satisfied by any one of its members, each under the usual rule. -/
theorem isActive_ofKeyList_iff (hsame : wacl.sameKeys again = true) :
    (ofKeyList wacl).isActive (.topLevelFile again) signed = true
      ↔ ∃ k ∈ wacl.members, k.isActive .standard signed = true := by
  have hmembers : ∀ k ∈ wacl.members,
      k.isActive (.topLevelFile again) signed = k.isActive .standard signed :=
    fun k hk =>
      isActive_eq_of_depth_lt ((Inside.member hk).depth_lt_of_sameKeys hsame)
  rw [ofKeyList, isActive, Activation.neededForList_copy hsame, countActive_eq,
    decide_eq_true_iff, Nat.one_le_iff_ne_zero, ← Nat.pos_iff_ne_zero,
    List.countP_pos_iff]
  refine exists_congr fun k => and_congr_right fun hk => ?_
  rw [hmembers k hk]

end Key

-- ================================================================ the order

namespace Resolver

variable {r : Resolver} {t : Transaction}

/-- A transaction gives up the WACL of a file, under the relaxed rule for a
list: it deletes the file, or puts the same keys in again while the present
ones are not waived. -/
inductive GivesUp (r : Resolver) (t : Transaction) (file : FileId)
    (wacl : KeyList) : KeyList → Prop where
  | delete (hbody : t.body = .fileDelete ⟨file⟩) : GivesUp r t file wacl wacl
  | replace {op : FileUpdate} {again : KeyList} (hbody : t.body = .fileUpdate op)
      (hfile : op.file = file) (hkeys : op.keys = some again)
      (hsame : wacl.sameKeys again = true)
      (htarget : r.waivers.targetFile t = false) : GivesUp r t file wacl again

theorem GivesUp.sameKeys {file : FileId} {wacl again : KeyList}
    (h : r.GivesUp t file wacl again) : wacl.sameKeys again = true := by
  cases h with
  | delete _ => exact (Key.sameKeys_iff _ _).2 rfl
  | replace _ _ _ hsame _ => exact hsame

/-- The new keys, behind a WACL that is the same keys, are dropped. -/
theorem dedup_presentEntry_newEntry {scope : Scope} {wacl again : KeyList}
    (hsame : wacl.sameKeys again = true) :
    OrderedKey.dedup [presentEntry scope wacl again, newEntry scope again]
      = [presentEntry scope wacl again] := by
  have hkeys : Key.sameKey (.ofKeyList wacl) (.ofKeyList again) = true := hsame
  have hseen : (newEntry scope again).identity
      ∈ [(presentEntry scope wacl again).identity] :=
    List.mem_singleton.2
      (congrArg (Prod.mk scope) ((Key.sameKey_iff _ _).1 hkeys).symm)
  rw [OrderedKey.dedup_cons, OrderedKey.dedupFrom_of_mem hseen]
  rfl

/-- The WACL of a file that is given up is the whole order. -/
theorem keysForOtherParties_of_givesUp {file : FileId} {wacl again : KeyList}
    (hfile : r.lookup .file file = .ok ⟨some wacl⟩)
    (h : r.GivesUp t file wacl again) :
    r.keysForOtherParties t = .ok [presentEntry t.id.scope wacl again] := by
  have hruns : t.body.runsSchedule = false := by
    cases h with
    | delete hbody => rw [hbody]; rfl
    | replace hbody => rw [hbody]; rfl
  rw [keysForOtherParties_eq_ok]
  simp only [collectKeys_eq_ok_of_not_runsSchedule hruns]
  cases h with
  | delete hbody =>
      refine ⟨_, ⟨[.ofWacl wacl (.topLevelFile wacl)], ?_, rfl⟩, rfl⟩
      unfold directKeys
      rw [hbody]
      exact fileDelete_eq_ok.2 ⟨⟨some wacl⟩, hfile, rfl⟩
  | @replace op _ hbody hop hkeys hsame htarget =>
      refine ⟨_, ⟨.ofWacl wacl (.topLevelFile again) :: r.newFileKeys t op,
        ?_, rfl⟩, ?_⟩
      · unfold directKeys
        rw [hbody]
        show r.fileUpdate t op = _
        rw [fileUpdate, htarget, if_neg Bool.false_ne_true, bind_eq_ok]
        refine ⟨⟨some wacl⟩, findFor_eq_ok.2 (hop ▸ hfile), ?_⟩
        unfold presentRule
        rw [hkeys]
        rfl
      · -- the new keys are asked for unless they are waived
        unfold newFileKeys
        rw [hkeys]
        by_cases hnew : r.waivers.newFile t = true
        · rw [if_pos hnew]
          rfl
        · rw [if_neg hnew]
          exact dedup_presentEntry_newEntry hsame

/-- Giving up a WACL takes one of its top-level members, and relaxes nothing
else. For a file that exists with a WACL, and a transaction that deletes it or
puts an equal list in again:

- the order is the WACL alone;
- that entry is satisfied exactly if at least one member of the WACL is, under
  the usual rule;
- the number that it needs is one, and the lists and thresholds inside of it,
  at any depth, need what they usually do and are satisfied by what usually
  satisfies them. -/
theorem revocation_relaxes_top (r : Resolver) (t : Transaction) (file : FileId)
    (wacl again : KeyList) (hfile : r.lookup .file file = .ok ⟨some wacl⟩)
    (h : r.GivesUp t file wacl again) :
    ∃ o : OrderedKey, r.keysForOtherParties t = .ok [o]
      ∧ o.key = .ofKeyList wacl ∧ o.scope = t.id.scope
      ∧ (∀ signed : LeafKey → Bool, o.isActive signed = true
        ↔ ∃ k ∈ wacl.members, k.isActive .standard signed = true)
      ∧ o.key.needs o.activation = 1 :: Key.needsOf .standard wacl.members
      ∧ ∀ k : Key, k.Inside o.key →
        k.needs o.activation = k.needs .standard
          ∧ ∀ signed : LeafKey → Bool,
            k.isActive o.activation signed = k.isActive .standard signed := by
  have hsame := h.sameKeys
  refine ⟨presentEntry t.id.scope wacl again,
    keysForOtherParties_of_givesUp hfile h, rfl, rfl,
    fun signed => Key.isActive_ofKeyList_iff hsame, Key.needs_ofKeyList hsame,
    fun k hk => ?_⟩
  have hlower := hk.depth_lt_of_sameKeys hsame
  exact ⟨Key.needs_eq_of_depth_lt hlower,
    fun signed => Key.isActive_eq_of_depth_lt hlower⟩

-- ============================================== the same keys in another form

/-- The keys of an archive: one holder, and a couple that signs together. -/
def archiveKeys : KeyList :=
  ⟨[.leaf Key.plainKey, .list [.leaf (.ed25519 [1]), .leaf (.ed25519 [2])]]⟩

/-- The same keys, with that of the holder in another form. -/
def archiveKeysAgain : KeyList :=
  ⟨[.leaf Key.wrappedKey, .list [.leaf (.ed25519 [1]), .leaf (.ed25519 [2])]]⟩

/-- A ledger of archives, where nothing is waived. -/
def archive : Resolver where
  lookup := Lookup.empty.withKind .file fun _ => .ok ⟨some archiveKeys⟩
  waivers := .nothing

/-- Puts the keys of an archive in again. -/
def reassert : Transaction :=
  Sample.txn (.ofNum 1001)
    (.fileUpdate ⟨.ofNum 1500, some archiveKeysAgain, none, none⟩)

/-- The holder alone will do, and so will the couple, but not half of it. -/
theorem revocation_relaxes_top_archive :
    archive.lookup .file (.ofNum 1500) = .ok ⟨some archiveKeys⟩
      ∧ archive.GivesUp reassert (.ofNum 1500) archiveKeys archiveKeysAgain
      ∧ ∃ o, archive.keysForOtherParties reassert = .ok [o]
        ∧ o.isActive (· = Key.plainKey) = true
        ∧ o.isActive (· ∈ [.ed25519 [1], .ed25519 [2]]) = true
        ∧ o.isActive (· = .ed25519 [1]) = false := by
  have hgiven : archive.GivesUp reassert (.ofNum 1500) archiveKeys
      archiveKeysAgain := .replace rfl rfl rfl (by decide) rfl
  obtain ⟨o, horder, -, -, hactive, -⟩ :=
    revocation_relaxes_top archive reassert (.ofNum 1500) _ _ rfl hgiven
  refine ⟨rfl, hgiven, o, horder, ?_, ?_, ?_⟩
  · rw [hactive]
    decide
  · rw [hactive]
    decide
  · rw [← Bool.not_eq_true, hactive]
    decide

end Resolver

end SigningOrder
