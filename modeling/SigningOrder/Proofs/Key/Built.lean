/-
No invalid key can be built. The functions that give keys, lists, thresholds
and leaves are few, and this file lists them as the steps of `AnyKey.Gives`:
the checked constructors, the conversions between the kinds of values and the
ways of taking one apart, the canonical form, and the readers of nodes, bytes
and documents. Whatever a sequence of steps has built, however the steps feed
each other, is a tree that may exist (`built_valid`).

A step keeps what is built valid (`valid_of_gives`), and it does so for three
reasons. The constructors check what they build, and of their members only
that they are valid. What is taken out of a valid tree is valid, since it is
no higher. And the three ways round the checks are under a law of their own:
the canonical form keeps the outline of a tree (`Key.outline_canonical`), the
reader of nodes goes through the constructors with its own bound on the levels
(`Key.nodes_of_ofNodes`), and the written forms accept only what fits.
-/
import SigningOrder.Proofs.Key.Canonical
import SigningOrder.Proofs.Key.Format

namespace SigningOrder

-- ==================================================== statement vocabulary

/-- A leaf, a list, a threshold, or a key of any of these kinds. -/
inductive AnyKey where
  | leaf (l : LeafKey)
  | list (l : KeyList)
  | threshold (required : UInt32) (members : KeyList)
  | key (k : Key)

/-- A value as a key. -/
def AnyKey.toKey : AnyKey → Key
  | leaf l => .leaf l
  | list l => .ofKeyList l
  | threshold required l => .threshold required l.members
  | key k => k

/-- What one operation gives, applied to values that are at hand. -/
inductive AnyKey.Gives (had : List AnyKey) : AnyKey → Prop where
  -- leaves
  | makeLeaf {algorithm : KeyAlgorithm} {bytes : Bytes} {l : LeafKey}
      (h : LeafKey.make algorithm bytes = .ok l) : Gives had (.leaf l)
  | ed25519 {bytes : Bytes} (h : bytes.length = 32) :
      Gives had (.leaf (.ed25519 bytes))
  | ofContract (c : ContractId) : Gives had (.leaf (.ofContract c))
  -- composites of keys at hand
  | makeKeyList {members : List Key} {l : KeyList}
      (hmembers : ∀ k ∈ members, .key k ∈ had)
      (h : KeyList.make members = .ok l) : Gives had (.list l)
  | makeList {members : List Key} {k : Key}
      (hmembers : ∀ k ∈ members, .key k ∈ had)
      (h : Key.makeList members = .ok k) : Gives had (.key k)
  | makeThreshold {required : UInt32} {members : List Key} {k : Key}
      (hmembers : ∀ k ∈ members, .key k ∈ had)
      (h : Key.makeThreshold required members = .ok k) : Gives had (.key k)
  -- one kind of value as another
  | ofLeaf {l : LeafKey} (h : .leaf l ∈ had) : Gives had (.key (.leaf l))
  | toLeaf {l : LeafKey} (h : .key (.leaf l) ∈ had) : Gives had (.leaf l)
  | ofKeyList {l : KeyList} (h : .list l ∈ had) :
      Gives had (.key (.ofKeyList l))
  | toKeyList {k : Key} {l : KeyList} (hk : .key k ∈ had)
      (h : k.toKeyList = .ok l) : Gives had (.list l)
  | ofThreshold {required : UInt32} {l : KeyList}
      (h : .threshold required l ∈ had) :
      Gives had (.key (.threshold required l.members))
  | toThreshold {required : UInt32} {members : List Key}
      (h : .key (.threshold required members) ∈ had) :
      Gives had (.threshold required ⟨members⟩)
  -- parts of a value
  | thresholdMembers {required : UInt32} {l : KeyList}
      (h : .threshold required l ∈ had) : Gives had (.list l)
  | member {l : KeyList} {k : Key} (hl : .list l ∈ had) (h : k ∈ l.members) :
      Gives had (.key k)
  -- the form that stands for a value
  | canonicalLeaf {l : LeafKey} (h : .leaf l ∈ had) :
      Gives had (.leaf l.canonical)
  | canonical {k : Key} (h : .key k ∈ had) : Gives had (.key k.canonical)
  -- readers; the leaves of nodes are leaves at hand
  | ofNodes {nodes : List KeyToken} {k : Key}
      (hleaves : ∀ l, KeyToken.leaf l ∈ nodes → .leaf l ∈ had)
      (h : Key.ofNodes nodes = .ok k) : Gives had (.key k)
  | decodeLeaf {bytes : Bytes} {l : LeafKey}
      (h : LeafKey.format.decodeValue bytes = .ok l) : Gives had (.leaf l)
  | decodeKeyList {bytes : Bytes} {l : KeyList}
      (h : KeyList.format.decodeValue bytes = .ok l) : Gives had (.list l)
  | decodeKey {bytes : Bytes} {k : Key}
      (h : Key.format.decodeValue bytes = .ok k) : Gives had (.key k)
  | readLeaf {d : Document} {l : LeafKey}
      (h : LeafKey.format.read d = .ok l) : Gives had (.leaf l)
  | readKeyList {d : Document} {l : KeyList}
      (h : KeyList.format.read d = .ok l) : Gives had (.list l)
  | readKey {d : Document} {k : Key}
      (h : Key.format.read d = .ok k) : Gives had (.key k)

/-- The values that a sequence of operations has built, the last one first. -/
inductive AnyKey.Built : List AnyKey → Prop where
  | nothing : Built []
  | next {had : List AnyKey} {v : AnyKey} (hhad : Built had)
      (h : v.Gives had) : Built (v :: had)

-- ================================================================= readers

variable {α β : Type}

theorem Format.fits_of_decodeValue {f : Format α} [f.Lawful] {bytes : Bytes}
    {a : α} (h : f.decodeValue bytes = .ok a) : f.fits a := by
  obtain ⟨⟨a, rest⟩, hread, rfl⟩ := map_eq_ok.1 h
  exact (Format.Lawful.law (f := f)).fits_of_decode hread

/-- A value that a check accepts was read as what the check accepts. -/
theorem Format.convert_read_eq_ok {f : Format α} {check : α → Except ReadError β}
    {view : β → α} {fits : β → Prop} {d : Document} {b : β} :
    (f.convert check view fits).read d = .ok b
      ↔ ∃ a, f.read d = .ok a ∧ check a = .ok b :=
  bind_eq_ok

/-- Each value of a list was read by itself. -/
theorem Format.exists_of_list_read {f : Format α} {d : Document} {as : List α}
    (h : (Format.list f).read d = .ok as) :
    ∀ a ∈ as, ∃ d, f.read d = .ok a := by
  have hmany : ∀ (ds : List Document) (as : List α),
      ds.mapM f.read = .ok as → ∀ a ∈ as, ∃ d, f.read d = .ok a := by
    intro ds
    induction ds with
    | nil =>
        intro as h a ha
        rw [List.mapM_nil] at h
        cases pure_eq_ok.1 h
        cases ha
    | cons d ds ih =>
        intro as h
        rw [List.mapM_cons] at h
        obtain ⟨a, hd, h⟩ := bind_eq_ok.1 h
        obtain ⟨rest, hds, h⟩ := bind_eq_ok.1 h
        cases pure_eq_ok.1 h
        exact List.forall_mem_cons.2 ⟨⟨d, hd⟩, ih rest hds⟩
  cases d with
  | list ds => exact hmany ds as h
  | openList ds => exact hmany ds as h
  | _ => cases h

/-- A value of a union was read as what one of the cases carries. -/
theorem Case.exists_of_union_read {cases : List (Case α)} {d : Document} {a : α}
    (h : (Case.union cases).read d = .ok a) :
    ∃ c ∈ cases, ∃ d p, c.format.read d = .ok p ∧ c.make p = a := by
  unfold Case.union at h
  dsimp only at h
  split at h
  next name d =>
    split at h
    next c hc =>
      obtain ⟨p, hp, rfl⟩ := map_eq_ok.1 h
      exact ⟨c, List.mem_of_find?_eq_some hc, d, p, hp, rfl⟩
    next => cases h
  next => cases h

theorem LeafKey.valid_of_read {d : Document} {l : LeafKey}
    (h : LeafKey.format.read d = .ok l) : l.Valid := by
  obtain ⟨⟨algorithm, bytes⟩, -, hmake⟩ := Format.convert_read_eq_ok.1 h
  exact (make_eq_ok.1 (KeyError.asReadError_eq_ok.1 hmake)).1

theorem KeyToken.leavesValid_of_read {d : Document} {nodes : List KeyToken}
    (h : (Format.list KeyToken.format).read d = .ok nodes) :
    KeyToken.LeavesValid nodes := by
  intro l hl
  obtain ⟨d, hread⟩ := Format.exists_of_list_read h _ hl
  obtain ⟨c, hc, d, p, hp, hmake⟩ := Case.exists_of_union_read hread
  -- Only the first case of a node carries a leaf.
  rcases hc with _ | ⟨_, _ | ⟨_, _ | ⟨_, hc⟩⟩⟩
  · cases hmake
    exact LeafKey.valid_of_read hp
  · cases hmake
  · cases hmake
  · cases hc

theorem Key.valid_of_read {d : Document} {k : Key}
    (h : Key.format.read d = .ok k) : k.Valid := by
  obtain ⟨nodes, hnodes, hmake⟩ := Format.convert_read_eq_ok.1 h
  exact (nodes_of_ofNodes (KeyToken.leavesValid_of_read hnodes)
    (KeyError.asReadError_eq_ok.1 hmake)).1

-- ============================================================= composites

namespace Key

variable {members : List Key} {k : Key}

theorem list_of_toKeyList {l : KeyList} (h : k.toKeyList = .ok l) :
    k = ofKeyList l := by
  cases k with
  | list ms =>
      cases h
      rfl
  | leaf l => cases h
  | threshold n ms => cases h

/-- A composite of valid members that leaves room for its level is no higher
than a key may be, and its members are well formed. -/
theorem members_of_valid (hmembers : ∀ k ∈ members, k.Valid)
    (hdepth : maxDepth members < maxKeyDepth) :
    AllWellFormed members ∧ 1 + maxDepth members ≤ maxKeyDepth :=
  ⟨allWellFormed_iff.2 fun k hk => (hmembers k hk).1, by omega⟩

theorem valid_of_makeList (hmembers : ∀ k ∈ members, k.Valid)
    (h : makeList members = .ok k) : k.Valid := by
  obtain ⟨hne, hdepth, rfl⟩ := makeList_eq_ok.1 h
  obtain ⟨hwf, hheight⟩ := members_of_valid hmembers hdepth
  exact ⟨⟨hne, hwf⟩, hheight⟩

theorem valid_of_makeThreshold {required : UInt32}
    (hmembers : ∀ k ∈ members, k.Valid)
    (h : makeThreshold required members = .ok k) : k.Valid := by
  obtain ⟨hne, hdepth, hlow, hhigh, rfl⟩ := makeThreshold_eq_ok.1 h
  obtain ⟨hwf, hheight⟩ := members_of_valid hmembers hdepth
  exact ⟨⟨hne, hlow, hhigh, hwf⟩, hheight⟩

/-- A key list is built as a list key is. -/
theorem makeList_of_make {l : KeyList} (h : KeyList.make members = .ok l) :
    makeList members = .ok (ofKeyList l) := by
  unfold makeList
  rw [h]
  rfl

/-- The members of a threshold are a list of the same height. -/
theorem valid_thresholdMembers {required : UInt32} {l : KeyList}
    (h : (threshold required l.members).Valid) : (ofKeyList l).Valid := by
  obtain ⟨⟨hne, -, -, hwf⟩, hdepth⟩ := h
  exact ⟨⟨hne, hwf⟩, hdepth⟩

/-- A member of a valid list is valid: it is less high. -/
theorem valid_member {l : KeyList} (h : (ofKeyList l).Valid)
    (hk : k ∈ l.members) : k.Valid := by
  obtain ⟨⟨-, hwf⟩, hdepth⟩ := h
  have hheight : 1 + maxDepth l.members ≤ maxKeyDepth := hdepth
  have hlower := depth_le_maxDepth hk
  exact ⟨allWellFormed_iff.1 hwf k hk, by omega⟩

end Key

-- ============================================================ step and run

namespace AnyKey

variable {had : List AnyKey} {v : AnyKey}

/-- A leaf with a payload is a tree of height 1. -/
theorem valid_leaf {l : LeafKey} (h : l.Valid) : (leaf l).toKey.Valid :=
  ⟨h, show 1 ≤ 15 by omega⟩

theorem valid_ed25519 {bytes : Bytes} (h : bytes.length = 32) :
    (LeafKey.ed25519 bytes).Valid := by
  show bytes ≠ []
  rintro rfl
  cases h

/-- The bytes of a contract end with those of its number. -/
theorem valid_ofContract (c : ContractId) : (LeafKey.ofContract c).Valid := by
  refine List.append_ne_nil_of_right_ne_nil _ ?_
  rw [BigEndian.ofWord, BigEndian.encode]
  exact List.append_ne_nil_of_right_ne_nil _ (List.cons_ne_nil _ _)

/-- An operation on valid values gives a valid value. -/
theorem valid_of_gives (hhad : ∀ w ∈ had, w.toKey.Valid) (h : v.Gives had) :
    v.toKey.Valid := by
  cases h with
  | makeLeaf h => exact valid_leaf (LeafKey.make_eq_ok.1 h).1
  | ed25519 h => exact valid_leaf (valid_ed25519 h)
  | ofContract c => exact valid_leaf (valid_ofContract c)
  | makeKeyList hmembers h =>
      exact Key.valid_of_makeList (fun k hk => hhad _ (hmembers k hk))
        (Key.makeList_of_make h)
  | makeList hmembers h =>
      exact Key.valid_of_makeList (fun k hk => hhad _ (hmembers k hk)) h
  | makeThreshold hmembers h =>
      exact Key.valid_of_makeThreshold (fun k hk => hhad _ (hmembers k hk)) h
  | ofLeaf h => exact hhad (leaf _) h
  | toLeaf h => exact hhad (key _) h
  | ofKeyList h => exact hhad (list _) h
  | toKeyList hk h =>
      have hvalid := hhad _ hk
      rw [show (key _).toKey = _ from Key.list_of_toKeyList h] at hvalid
      exact hvalid
  | ofThreshold h => exact hhad (threshold _ _) h
  | toThreshold h => exact hhad (key _) h
  | thresholdMembers h => exact Key.valid_thresholdMembers (hhad _ h)
  | member hl h => exact Key.valid_member (hhad _ hl) h
  | canonicalLeaf h => exact valid_leaf (LeafKey.valid_canonical (hhad _ h).1)
  | canonical h => exact Key.valid_canonical (hhad _ h)
  | ofNodes hleaves h =>
      exact (Key.nodes_of_ofNodes (fun l hl => (hhad _ (hleaves l hl)).1) h).1
  | decodeLeaf h => exact valid_leaf (Format.fits_of_decodeValue h).1
  | decodeKeyList h => exact (Format.fits_of_decodeValue h).1
  | decodeKey h => exact (Format.fits_of_decodeValue h).1
  | readLeaf h => exact valid_leaf (LeafKey.valid_of_read h)
  | readKeyList h =>
      obtain ⟨k, hk, hlist⟩ := Format.convert_read_eq_ok.1 h
      have hvalid := Key.valid_of_read hk
      rw [Key.list_of_toKeyList (KeyError.asReadError_eq_ok.1 hlist)] at hvalid
      exact hvalid
  | readKey h => exact Key.valid_of_read h

theorem valid_of_built (h : Built had) : ∀ v ∈ had, v.toKey.Valid := by
  induction h with
  | nothing => exact nofun
  | next _ h ih => exact List.forall_mem_cons.2 ⟨valid_of_gives ih h, ih⟩

/-- No invalid key can be built. Whatever a sequence of operations has built
may exist: its leaves have payloads, its composites members, its thresholds
ask for one of these at least and for all of them at most, it is no higher
than keys may be, and it has a leaf. Its canonical form has the same outline,
which is its kinds, thresholds, numbers of members and algorithms in order,
the canonical forms of its leaves in their order, and its height and number of
leaves. -/
theorem built_valid (had : List AnyKey) (h : Built had) (v : AnyKey)
    (hv : v ∈ had) :
    v.toKey.Valid ∧ 1 ≤ v.toKey.leafCount
      ∧ v.toKey.canonical.outline = v.toKey.outline
      ∧ v.toKey.canonical.leaves = v.toKey.leaves.map LeafKey.canonical
      ∧ v.toKey.canonical.depth = v.toKey.depth
      ∧ v.toKey.canonical.leafCount = v.toKey.leafCount := by
  have hvalid := valid_of_built h v hv
  exact ⟨hvalid, Key.leafCount_pos hvalid.1, Key.outline_canonical _,
    Key.leaves_canonical _, Key.depth_canonical _, Key.leafCount_canonical _⟩

/-- A key and a point, both in their long forms, that must both sign. -/
def longPair : Key :=
  .threshold 2 [.leaf Key.wrappedKey, .leaf Key.openPoint]

/-- Two leaves are made, their threshold is read from nodes, and its canonical
form is taken: that form is valid, and as high as the threshold. -/
theorem built_valid_longPair :
    let had := [key longPair.canonical, key longPair, leaf Key.openPoint,
      leaf Key.wrappedKey]
    Built had ∧ longPair.canonical.Valid
      ∧ longPair.canonical.canonical.depth = longPair.canonical.depth := by
  intro had
  have hkey : LeafKey.make .ed25519 Key.wrappedKey.bytes
      = .ok Key.wrappedKey := rfl
  have hpoint : LeafKey.make .ecdsaSecp256k1 Key.openPoint.bytes
      = .ok Key.openPoint := rfl
  have hnodes : Key.ofNodes [.threshold 2 2, .leaf Key.wrappedKey,
      .leaf Key.openPoint] = .ok longPair := rfl
  have hleaves : Built [leaf Key.openPoint, leaf Key.wrappedKey] :=
    .next (.next .nothing (.makeLeaf hkey)) (.makeLeaf hpoint)
  have hread : (key longPair).Gives [leaf Key.openPoint, leaf Key.wrappedKey] :=
    .ofNodes (fun l hl => by simpa [or_comm] using hl) hnodes
  have hbuilt : Built had :=
    .next (.next hleaves hread) (.canonical (List.mem_cons_self ..))
  obtain ⟨hvalid, -, -, -, hdepth, -⟩ :=
    built_valid had hbuilt (key longPair.canonical) (List.mem_cons_self ..)
  exact ⟨hbuilt, hvalid, hdepth⟩

end AnyKey

end SigningOrder
