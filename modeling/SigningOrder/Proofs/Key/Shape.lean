/-
The shape of a key, and what replacing its leaves keeps of it. A key is a tree
whose composites hold lists of trees, and the functions on it come in pairs,
one for a key and one for a list of members. `Key.ind` packages the induction
over both once: what holds of a composite may be proved from what holds of
each of its members. With it the second half of each pair is read as a `map`,
a `flatMap` or a `∀` over the members, and the lemmas of the library do the
rest.

`mapLeaves` replaces every leaf and touches no composite. Whatever a pass over
keys does to leaves, the rest follows from here: two passes are one
(`mapLeaves_mapLeaves`), the height stays, the leaves are replaced in place
(`leaves_mapLeaves`), and a tree that may exist stays one if its leaves do
(`wellFormed_mapLeaves`). `outline` is the tree without the payloads of its
leaves: its kinds, thresholds, numbers of members and algorithms, in order.

What a key holds is `Inside` of it and lower than it; `StandsIn` counts the key
itself in as well, and `inside_iff` says that the one is the other for some
member.
-/
import SigningOrder.Key

namespace SigningOrder

namespace Key

-- ============================================================== induction

/-- A property holds of every key if it holds of leaves and each composite
inherits it from its members. -/
@[elab_as_elim]
theorem ind {P : Key → Prop} (leaf : ∀ l, P (.leaf l))
    (list : ∀ ks, (∀ k ∈ ks, P k) → P (.list ks))
    (threshold : ∀ n ks, (∀ k ∈ ks, P k) → P (.threshold n ks)) (k : Key) :
    P k :=
  Key.rec (motive_1 := P) (motive_2 := fun ks => ∀ k ∈ ks, P k)
    leaf list threshold
    (fun _ hk => absurd hk List.not_mem_nil)
    (fun _ _ hhead htail => List.forall_mem_cons.2 ⟨hhead, htail⟩)
    k

-- =========================================================== over members

theorem allWellFormed_iff {ks : List Key} :
    AllWellFormed ks ↔ ∀ k ∈ ks, k.WellFormed := by
  induction ks with
  | nil => exact ⟨fun _ => nofun, fun _ => True.intro⟩
  | cons k ks ih => rw [AllWellFormed, ih, List.forall_mem_cons]

theorem leavesOf_eq (ks : List Key) : leavesOf ks = ks.flatMap leaves := by
  induction ks with
  | nil => rfl
  | cons k ks ih => rw [leavesOf, ih, List.flatMap_cons]

theorem depth_le_maxDepth {ks : List Key} {k : Key} (h : k ∈ ks) :
    k.depth ≤ maxDepth ks := by
  induction ks with
  | nil => cases h
  | cons a ks ih =>
      rw [maxDepth]
      rcases List.mem_cons.1 h with rfl | h
      · exact Nat.le_max_left _ _
      · exact Nat.le_trans (ih h) (Nat.le_max_right _ _)

theorem maxDepth_map {ks : List Key} {g : Key → Key}
    (h : ∀ k ∈ ks, (g k).depth = k.depth) :
    maxDepth (ks.map g) = maxDepth ks := by
  induction ks with
  | nil => rfl
  | cons k ks ih =>
      obtain ⟨hhead, htail⟩ := List.forall_mem_cons.1 h
      rw [List.map_cons, maxDepth, maxDepth, hhead, ih htail]

/-- A tree that may exist has a leaf: its composites have members. -/
theorem leafCount_pos {k : Key} (h : k.WellFormed) : 1 ≤ k.leafCount := by
  have hmember : ∀ ks : List Key, ks ≠ [] → AllWellFormed ks →
      (∀ k ∈ ks, k.WellFormed → 1 ≤ k.leafCount) →
      1 ≤ (leavesOf ks).length := by
    intro ks hne hwf ih
    obtain ⟨k, rest, rfl⟩ := List.exists_cons_of_ne_nil hne
    have hfirst := ih k List.mem_cons_self hwf.1
    rw [leavesOf, List.length_append]
    exact Nat.le_trans hfirst (Nat.le_add_right _ _)
  induction k using ind with
  | leaf l => exact Nat.le_refl 1
  | list ks ih => exact hmember ks h.1 h.2 ih
  | threshold n ks ih => exact hmember ks h.1 h.2.2.2 ih

-- ======================================================= keys inside of keys

/-- The members of a composite. -/
def members : Key → List Key
  | leaf _ => []
  | list ks => ks
  | threshold _ ks => ks

/-- A key stands inside of another, at any depth. -/
inductive Inside (k : Key) : Key → Prop where
  | member {whole : Key} (h : k ∈ whole.members) : Inside k whole
  | deeper {part whole : Key} (h : Inside k part) (hpart : part ∈ whole.members) :
      Inside k whole

/-- A key stands in another: it is that key, or it stands inside of it. -/
def StandsIn (k whole : Key) : Prop :=
  k = whole ∨ k.Inside whole

theorem inside_iff {k whole : Key} :
    k.Inside whole ↔ ∃ part ∈ whole.members, k.StandsIn part := by
  constructor
  · rintro (hmem | ⟨h, hpart⟩)
    · exact ⟨k, hmem, Or.inl rfl⟩
    · exact ⟨_, hpart, Or.inr h⟩
  · rintro ⟨part, hpart, rfl | h⟩
    · exact .member hpart
    · exact .deeper h hpart

@[simp] theorem standsIn_leaf {k : Key} {l : LeafKey} :
    k.StandsIn (leaf l) ↔ k = leaf l := by
  rw [StandsIn, inside_iff, members]
  simp

@[simp] theorem standsIn_list {k : Key} {ks : List Key} :
    k.StandsIn (list ks) ↔ k = list ks ∨ ∃ part ∈ ks, k.StandsIn part := by
  rw [StandsIn, inside_iff, members]

@[simp] theorem standsIn_threshold {k : Key} {n : UInt32} {ks : List Key} :
    k.StandsIn (threshold n ks)
      ↔ k = threshold n ks ∨ ∃ part ∈ ks, k.StandsIn part := by
  rw [StandsIn, inside_iff, members]

/-- What stands in a member stands in the composite. -/
theorem StandsIn.of_mem {k part whole : Key} (h : k.StandsIn part)
    (hpart : part ∈ whole.members) : k.StandsIn whole :=
  Or.inr (inside_iff.2 ⟨part, hpart, h⟩)

/-- The leaves of a member are leaves of the composite. -/
theorem mem_leaves_of_mem {l : LeafKey} {k whole : Key} (hk : k ∈ whole.members)
    (hl : l ∈ k.leaves) : l ∈ whole.leaves := by
  cases whole with
  | leaf _ => cases hk
  | list ks =>
      rw [leaves, leavesOf_eq]
      exact List.mem_flatMap.2 ⟨k, hk, hl⟩
  | threshold n ks =>
      rw [leaves, leavesOf_eq]
      exact List.mem_flatMap.2 ⟨k, hk, hl⟩

theorem depth_lt_of_mem {k whole : Key} (h : k ∈ whole.members) :
    k.depth < whole.depth := by
  cases whole with
  | leaf l => cases h
  | list ks =>
      have hle : k.depth ≤ maxDepth ks := depth_le_maxDepth h
      rw [depth]
      omega
  | threshold n ks =>
      have hle : k.depth ≤ maxDepth ks := depth_le_maxDepth h
      rw [depth]
      omega

/-- What is inside of a key is lower. -/
theorem Inside.depth_lt {k whole : Key} (h : k.Inside whole) :
    k.depth < whole.depth := by
  induction h with
  | member hmem => exact depth_lt_of_mem hmem
  | deeper _ hpart ih => exact Nat.lt_trans ih (depth_lt_of_mem hpart)

/-- What stands in a key is no higher. -/
theorem StandsIn.depth_le {k whole : Key} (h : k.StandsIn whole) :
    k.depth ≤ whole.depth := by
  rcases h with rfl | h
  · exact Nat.le_refl _
  · exact Nat.le_of_lt h.depth_lt

end Key

-- ======================================================== replacing leaves

mutual

/-- The tree with every leaf replaced. -/
def Key.mapLeaves (f : LeafKey → LeafKey) : Key → Key
  | .leaf l => .leaf (f l)
  | .list members => .list (Key.mapLeavesOf f members)
  | .threshold required members =>
    .threshold required (Key.mapLeavesOf f members)

/-- The trees with every leaf replaced. -/
def Key.mapLeavesOf (f : LeafKey → LeafKey) : List Key → List Key
  | [] => []
  | k :: ks => Key.mapLeaves f k :: Key.mapLeavesOf f ks

end

namespace Key

variable (f g : LeafKey → LeafKey)

theorem mapLeavesOf_eq (ks : List Key) :
    mapLeavesOf f ks = ks.map (mapLeaves f) := by
  induction ks with
  | nil => rfl
  | cons k ks ih => rw [mapLeavesOf, ih, List.map_cons]

@[simp] theorem mapLeaves_leaf (l : LeafKey) :
    (leaf l).mapLeaves f = leaf (f l) := by
  rw [mapLeaves]

@[simp] theorem mapLeaves_list (ks : List Key) :
    (list ks).mapLeaves f = list (ks.map (mapLeaves f)) := by
  rw [mapLeaves, mapLeavesOf_eq]

@[simp] theorem mapLeaves_threshold (n : UInt32) (ks : List Key) :
    (threshold n ks).mapLeaves f = threshold n (ks.map (mapLeaves f)) := by
  rw [mapLeaves, mapLeavesOf_eq]

/-- To replace leaves twice is to replace them once. -/
theorem mapLeaves_mapLeaves (k : Key) :
    (k.mapLeaves f).mapLeaves g = k.mapLeaves (g ∘ f) := by
  induction k using ind with
  | leaf l => simp
  | list ks ih =>
      simp only [mapLeaves_list, List.map_map, list.injEq]
      exact List.map_congr_left ih
  | threshold n ks ih =>
      simp only [mapLeaves_threshold, List.map_map, threshold.injEq, true_and]
      exact List.map_congr_left ih

theorem depth_mapLeaves (k : Key) : (k.mapLeaves f).depth = k.depth := by
  induction k using ind with
  | leaf l => simp [depth]
  | list ks ih => rw [mapLeaves_list, depth, depth, maxDepth_map ih]
  | threshold n ks ih => rw [mapLeaves_threshold, depth, depth, maxDepth_map ih]

/-- The leaves are replaced where they stand. -/
theorem leaves_mapLeaves (k : Key) :
    (k.mapLeaves f).leaves = k.leaves.map f := by
  have hmembers : ∀ ks : List Key,
      (∀ k ∈ ks, (k.mapLeaves f).leaves = k.leaves.map f) →
      leavesOf (ks.map (mapLeaves f)) = (leavesOf ks).map f := by
    intro ks ih
    rw [leavesOf_eq, leavesOf_eq, List.flatMap_map, List.map_flatMap,
      List.flatMap_def, List.flatMap_def, List.map_congr_left ih]
  induction k using ind with
  | leaf l => simp [leaves]
  | list ks ih => rw [mapLeaves_list, leaves, leaves, hmembers ks ih]
  | threshold n ks ih =>
      rw [mapLeaves_threshold, leaves, leaves, hmembers ks ih]

theorem leafCount_mapLeaves (k : Key) :
    (k.mapLeaves f).leafCount = k.leafCount := by
  unfold leafCount
  rw [leaves_mapLeaves, List.length_map]

/-- A tree that may exist stays one if its leaves do. -/
theorem wellFormed_mapLeaves {f : LeafKey → LeafKey}
    (hf : ∀ l : LeafKey, l.Valid → (f l).Valid) {k : Key} (h : k.WellFormed) :
    (k.mapLeaves f).WellFormed := by
  have hmembers : ∀ ks : List Key, AllWellFormed ks →
      (∀ k ∈ ks, k.WellFormed → (k.mapLeaves f).WellFormed) →
      AllWellFormed (ks.map (mapLeaves f)) := by
    intro ks hks ih
    rw [allWellFormed_iff] at hks ⊢
    rw [List.forall_mem_map]
    exact fun k hk => ih k hk (hks k hk)
  induction k using ind with
  | leaf l =>
      rw [mapLeaves_leaf]
      exact hf l h
  | list ks ih =>
      obtain ⟨hne, hks⟩ := h
      rw [mapLeaves_list]
      exact ⟨mt List.map_eq_nil_iff.1 hne, hmembers ks hks ih⟩
  | threshold n ks ih =>
      obtain ⟨hne, hlow, hhigh, hks⟩ := h
      rw [mapLeaves_threshold]
      refine ⟨mt List.map_eq_nil_iff.1 hne, hlow, ?_, hmembers ks hks ih⟩
      rw [List.length_map]
      exact hhigh

-- ================================================================ outlines

/-- The tree without the payloads of its leaves. -/
def outline (k : Key) : Key :=
  k.mapLeaves fun l => ⟨l.algorithm, []⟩

/-- Trees of one outline are of one kind, have leaves of the same algorithms
in the same order, and are of one height. -/
theorem alike_of_outline {a b : Key} (h : a.outline = b.outline) :
    a.ctorIdx = b.ctorIdx
      ∧ a.leaves.map LeafKey.algorithm = b.leaves.map LeafKey.algorithm
      ∧ a.depth = b.depth := by
  have hkind : ∀ k : Key, k.outline.ctorIdx = k.ctorIdx := by
    intro k
    cases k <;> rfl
  have halgorithms : ∀ k : Key, k.outline.leaves.map LeafKey.algorithm
      = k.leaves.map LeafKey.algorithm := by
    intro k
    unfold outline
    rw [leaves_mapLeaves, List.map_map]
    rfl
  have hdepth : ∀ k : Key, k.outline.depth = k.depth :=
    fun k => depth_mapLeaves _ k
  refine ⟨?_, ?_, ?_⟩
  · rw [← hkind a, h, hkind b]
  · rw [← halgorithms a, h, halgorithms b]
  · rw [← hdepth a, h, hdepth b]

end Key

end SigningOrder
