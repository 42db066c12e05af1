/-
Equality up to decodability as a relation of its own. `sameKey` compares two
trees leaf by leaf and `canonical` rewrites one; that the two agree is proved
beside this file (`Key.sameKey_iff`). What is added here is what the relation
is: an equivalence that goes through the composites place by place and never
relates keys of another shape (`sameKey_congruence`), and at the leaves the two
documented pairs of encodings and nothing else (`LeafKey.sameKey_iff_forms`).

Two views carry it. On leaves, the encodings are stated as relations between
payloads, without the tests that the code makes (`Wraps`, `Compressed`), and
each reduction is shown to be its relation; that a reduced payload cannot be
reduced again is then read off lengths. On trees, `canonical` is one way of
replacing leaves (`mapLeaves`), and what such a replacement keeps is proved
once: the tree without its payloads (`outline`), and with it the height and the
number of leaves.
-/
import SigningOrder.Proofs.Key.Decoding
import SigningOrder.Proofs.Key.Shape

namespace SigningOrder

-- ===================================================== encodings of leaves

namespace LeafKey

/-- A payload is the public-key info structure around a plain Ed25519 key. -/
def Wraps (info plain : Bytes) : Prop :=
  plain.length = 32 ∧ info = ed25519Header ++ plain

/-- The form that stands for the payload of a secp256k1 key: an uncompressed
point has that of its parity and first coordinate, and any other payload
stands for itself. -/
inductive Compressed : Bytes → Bytes → Prop where
  | point {x y : Bytes} {last : UInt8} (hx : x.length = 32)
      (hy : y.length = 31) :
      Compressed (0x04 :: (x ++ (y ++ [last])))
        ((if last.toNat % 2 = 0 then 0x02 else 0x03) :: x)
  | other {bytes : Bytes}
      (h : bytes.length ≠ 65 ∨ bytes.head? ≠ some 0x04) :
      Compressed bytes bytes

/-- Payloads of one algorithm that encode one public key. -/
def SamePayload (algorithm : KeyAlgorithm) (a b : Bytes) : Prop :=
  a = b
    ∨ (algorithm = .ed25519 ∧ (Wraps a b ∨ Wraps b a))
    ∨ (algorithm = .ecdsaSecp256k1
      ∧ ∃ form, Compressed a form ∧ Compressed b form)

variable {a b info plain bytes form : Bytes}

theorem length_of_wraps (h : Wraps info plain) : info.length = 44 := by
  obtain ⟨hplain, rfl⟩ := h
  rw [List.length_append, hplain]
  rfl

theorem unwrapEd25519_of_wraps (h : Wraps info plain) :
    unwrapEd25519 info = plain := by
  have hlength := length_of_wraps h
  obtain ⟨-, rfl⟩ := h
  unfold unwrapEd25519
  rw [if_pos ⟨hlength, List.take_left' rfl⟩]
  exact List.drop_left' rfl

theorem unwrapEd25519_of_not_wraps (h : ∀ plain, ¬Wraps bytes plain) :
    unwrapEd25519 bytes = bytes := by
  unfold unwrapEd25519
  refine if_neg fun hinfo => h (bytes.drop 12) ⟨?_, ?_⟩
  · rw [List.length_drop, hinfo.1]
  · rw [← hinfo.2, List.take_append_drop]

/-- A plain key is no info structure: it is too short for one. -/
theorem unwrapEd25519_plain (h : Wraps info plain) :
    unwrapEd25519 plain = plain := by
  refine unwrapEd25519_of_not_wraps fun inner hinner => ?_
  have hlong := length_of_wraps hinner
  have hshort := h.1
  omega

/-- Two payloads unwrap to one key exactly if they are equal or one of them
is the info structure around the other. -/
theorem unwrapEd25519_eq_iff :
    unwrapEd25519 a = unwrapEd25519 b ↔ a = b ∨ Wraps a b ∨ Wraps b a := by
  constructor
  · intro h
    by_cases ha : ∃ plain, Wraps a plain
    · obtain ⟨plain, ha⟩ := ha
      rw [unwrapEd25519_of_wraps ha] at h
      by_cases hb : ∃ plain, Wraps b plain
      · obtain ⟨plain', hb⟩ := hb
        rw [unwrapEd25519_of_wraps hb] at h
        subst h
        exact Or.inl (ha.2.trans hb.2.symm)
      · rw [unwrapEd25519_of_not_wraps (not_exists.1 hb)] at h
        subst h
        exact Or.inr (Or.inl ha)
    · rw [unwrapEd25519_of_not_wraps (not_exists.1 ha)] at h
      by_cases hb : ∃ plain, Wraps b plain
      · obtain ⟨plain, hb⟩ := hb
        rw [unwrapEd25519_of_wraps hb] at h
        subst h
        exact Or.inr (Or.inr hb)
      · rw [unwrapEd25519_of_not_wraps (not_exists.1 hb)] at h
        exact Or.inl h
  · rintro (rfl | h | h)
    · rfl
    · rw [unwrapEd25519_of_wraps h, unwrapEd25519_plain h]
    · rw [unwrapEd25519_of_wraps h, unwrapEd25519_plain h]

/-- An uncompressed point is its mark and two coordinates of 32 bytes, of the
second of which only the last byte is looked at. -/
theorem exists_coordinates (hlength : bytes.length = 65)
    (hmark : bytes.head? = some 0x04) :
    ∃ x y last, x.length = 32 ∧ y.length = 31
      ∧ bytes = 0x04 :: (x ++ (y ++ [last])) := by
  obtain ⟨coordinates, rfl⟩ := List.head?_eq_some_iff.1 hmark
  have hlength : coordinates.length = 64 := Nat.succ.inj hlength
  have hsecond : coordinates.drop 32 ≠ [] := by
    intro hnil
    have hnone := congrArg List.length hnil
    rw [List.length_drop, hlength] at hnone
    cases hnone
  refine ⟨coordinates.take 32, (coordinates.drop 32).dropLast,
    (coordinates.drop 32).getLast hsecond, ?_, ?_, ?_⟩
  · rw [List.length_take, hlength]
    rfl
  · rw [List.length_dropLast, List.length_drop, hlength]
  · rw [List.dropLast_concat_getLast, List.take_append_drop]

theorem compressSecp256k1_point {x y : Bytes} {last : UInt8}
    (hx : x.length = 32) (hy : y.length = 31) :
    compressSecp256k1 (0x04 :: (x ++ (y ++ [last])))
      = (if last.toNat % 2 = 0 then 0x02 else 0x03) :: x := by
  have hlast : ((0x04 : UInt8) :: (x ++ (y ++ [last]))).getLastD 0 = last := by
    rw [← List.append_assoc, ← List.cons_append, List.getLastD_concat]
  unfold compressSecp256k1
  rw [if_pos ⟨by simp [hx, hy], rfl⟩, hlast, List.drop_one, List.tail_cons,
    List.take_left' hx]

/-- The reduction of secp256k1 payloads gives the form that stands for them
and no other. -/
theorem compressSecp256k1_eq_iff :
    compressSecp256k1 bytes = form ↔ Compressed bytes form := by
  constructor
  · rintro rfl
    by_cases hpoint : bytes.length = 65 ∧ bytes.head? = some 0x04
    · obtain ⟨x, y, last, hx, hy, rfl⟩ := exists_coordinates hpoint.1 hpoint.2
      rw [compressSecp256k1_point hx hy]
      exact .point hx hy
    · unfold compressSecp256k1
      rw [if_neg hpoint]
      exact .other (Decidable.not_and_iff_or_not.1 hpoint)
  · rintro (⟨hx, hy⟩ | h)
    · exact compressSecp256k1_point hx hy
    · unfold compressSecp256k1
      exact if_neg fun hpoint => h.elim (· hpoint.1) (· hpoint.2)

/-- A form that stands for a payload stands for itself: a compressed point is
too short for an uncompressed one. -/
theorem Compressed.self (h : Compressed bytes form) : Compressed form form := by
  cases h with
  | point hx hy =>
      refine .other (Or.inl ?_)
      rw [List.length_cons, hx]
      decide
  | other h => exact .other h

-- ================================================== leaves up to encoding

/-- Leaves decode to one public key exactly if they are of one algorithm and
their payloads encode one key: they are equal, or they are a plain Ed25519 key
and its info structure, or secp256k1 payloads with one compressed form. -/
theorem sameKey_iff_forms (a b : LeafKey) :
    a.sameKey b = true
      ↔ a.algorithm = b.algorithm ∧ SamePayload a.algorithm a.bytes b.bytes := by
  obtain ⟨algorithm, a⟩ := a
  obtain ⟨algorithm', b⟩ := b
  unfold sameKey SamePayload canonicalBytes
  rw [Bool.and_eq_true, beq_iff_eq, beq_iff_eq]
  refine and_congr_right fun halgorithm => ?_
  dsimp only at halgorithm ⊢
  subst halgorithm
  cases algorithm with
  | ed25519 => simp [unwrapEd25519_eq_iff]
  | ecdsaSecp256k1 =>
      have hforms : compressSecp256k1 a = compressSecp256k1 b
          ↔ ∃ form, Compressed a form ∧ Compressed b form := by
        refine ⟨fun h => ⟨_, compressSecp256k1_eq_iff.1 rfl,
          compressSecp256k1_eq_iff.1 h.symm⟩, ?_⟩
        rintro ⟨form, ha, hb⟩
        rw [compressSecp256k1_eq_iff.2 ha, compressSecp256k1_eq_iff.2 hb]
      simp only [hforms, reduceCtorEq, false_and, true_and, false_or]
      refine ⟨Or.inr, fun h => h.elim ?_ id⟩
      rintro rfl
      exact hforms.1 rfl
  | ecdsaP384 => simp
  | rsa3072 => simp
  | contractId => simp

/-- The form that stands for a leaf cannot be reduced again. -/
theorem canonical_canonical (l : LeafKey) :
    l.canonical.canonical = l.canonical := by
  obtain ⟨algorithm, bytes⟩ := l
  unfold canonical
  rw [mk.injEq]
  refine ⟨rfl, ?_⟩
  cases algorithm with
  | ed25519 =>
      show unwrapEd25519 (unwrapEd25519 bytes) = unwrapEd25519 bytes
      by_cases h : ∃ plain, Wraps bytes plain
      · obtain ⟨plain, h⟩ := h
        rw [unwrapEd25519_of_wraps h, unwrapEd25519_plain h]
      · have hself := unwrapEd25519_of_not_wraps (not_exists.1 h)
        rw [hself, hself]
  | ecdsaSecp256k1 =>
      show compressSecp256k1 (compressSecp256k1 bytes) = compressSecp256k1 bytes
      exact compressSecp256k1_eq_iff.2 (compressSecp256k1_eq_iff.1 rfl).self
  | ecdsaP384 => rfl
  | rsa3072 => rfl
  | contractId => rfl

/-- The form that stands for a leaf with a payload has a payload. -/
theorem valid_canonical {l : LeafKey} (h : l.Valid) : l.canonical.Valid := by
  obtain ⟨algorithm, bytes⟩ := l
  show canonicalBytes _ ≠ []
  cases algorithm with
  | ed25519 =>
      show unwrapEd25519 bytes ≠ []
      by_cases hwraps : ∃ plain, Wraps bytes plain
      · obtain ⟨plain, hplain, hwraps⟩ := hwraps
        rw [unwrapEd25519_of_wraps ⟨hplain, hwraps⟩]
        rintro rfl
        cases hplain
      · rw [unwrapEd25519_of_not_wraps (not_exists.1 hwraps)]
        exact h
  | ecdsaSecp256k1 =>
      show compressSecp256k1 bytes ≠ []
      generalize hform : compressSecp256k1 bytes = form
      cases compressSecp256k1_eq_iff.1 hform with
      | point => exact List.cons_ne_nil _ _
      | other => exact h
  | ecdsaP384 => exact h
  | rsa3072 => exact h
  | contractId => exact h

end LeafKey

-- ====================================================== the canonical tree

namespace Key

theorem canonicalMembers_eq (ks : List Key) :
    canonicalMembers ks = ks.map canonical := by
  induction ks with
  | nil => rfl
  | cons k ks ih => rw [canonicalMembers, ih, List.map_cons]

/-- The canonical form replaces leaves and touches nothing else. -/
theorem canonical_eq_mapLeaves (k : Key) :
    k.canonical = k.mapLeaves LeafKey.canonical := by
  induction k using ind with
  | leaf l => rw [canonical, mapLeaves_leaf]
  | list ks ih =>
      rw [canonical, canonicalMembers_eq, mapLeaves_list,
        List.map_congr_left ih]
  | threshold n ks ih =>
      rw [canonical, canonicalMembers_eq, mapLeaves_threshold,
        List.map_congr_left ih]

theorem canonical_canonical (k : Key) :
    k.canonical.canonical = k.canonical := by
  have hleaf : LeafKey.canonical ∘ LeafKey.canonical = LeafKey.canonical :=
    funext LeafKey.canonical_canonical
  rw [canonical_eq_mapLeaves, canonical_eq_mapLeaves, mapLeaves_mapLeaves,
    hleaf]

theorem outline_canonical (k : Key) : k.canonical.outline = k.outline := by
  unfold outline
  rw [canonical_eq_mapLeaves, mapLeaves_mapLeaves]
  rfl

theorem leaves_canonical (k : Key) :
    k.canonical.leaves = k.leaves.map LeafKey.canonical := by
  rw [canonical_eq_mapLeaves, leaves_mapLeaves]

theorem depth_canonical (k : Key) : k.canonical.depth = k.depth := by
  rw [canonical_eq_mapLeaves, depth_mapLeaves]

theorem leafCount_canonical (k : Key) :
    k.canonical.leafCount = k.leafCount := by
  rw [canonical_eq_mapLeaves, leafCount_mapLeaves]

theorem valid_canonical {k : Key} (h : k.Valid) : k.canonical.Valid := by
  refine ⟨?_, ?_⟩
  · rw [canonical_eq_mapLeaves]
    exact wellFormed_mapLeaves (fun _ => LeafKey.valid_canonical) h.1
  · rw [depth_canonical]
    exact h.2

-- ============================================================ the relation

/-- Lists of keys with as many members, the same keys place by place. -/
def SamePlaces (as bs : List Key) : Prop :=
  as.length = bs.length
    ∧ ∀ (i : Nat) (a b : Key),
      as[i]? = some a → bs[i]? = some b → a.sameKey b = true

theorem sameKeys_iff_samePlaces (as bs : List Key) :
    sameKeys as bs = true ↔ SamePlaces as bs := by
  induction as generalizing bs with
  | nil =>
      cases bs with
      | nil => simp [sameKeys, SamePlaces]
      | cons b bs => simp [sameKeys, SamePlaces]
  | cons a as ih =>
      cases bs with
      | nil => simp [sameKeys, SamePlaces]
      | cons b bs =>
          rw [sameKeys, Bool.and_eq_true, ih]
          constructor
          · rintro ⟨hhead, hlength, htail⟩
            refine ⟨congrArg (· + 1) hlength, fun i x y hx hy => ?_⟩
            cases i with
            | zero =>
                cases hx
                cases hy
                exact hhead
            | succ i => exact htail i x y hx hy
          · rintro ⟨hlength, hplaces⟩
            exact ⟨hplaces 0 a b rfl rfl, Nat.succ.inj hlength,
              fun i x y => hplaces (i + 1) x y⟩

/-- Related keys have one outline, as their canonical forms have. -/
theorem outline_of_sameKey {a b : Key} (h : a.sameKey b = true) :
    a.outline = b.outline := by
  rw [← outline_canonical a, (sameKey_iff a b).1 h, outline_canonical]

/-- Equality up to decodability is equality of canonical forms, and a
congruence on keys:

- it holds exactly where the canonical forms are equal; the canonical form of
  a key is related to it and is its own canonical form;
- it is an equivalence;
- lists, and thresholds with one count, are related exactly if they have as
  many members and these are related place by place; key lists likewise;
- related keys are of one kind and one height, and have leaves of the same
  algorithms in the same order;
- leaves are related exactly if they have one algorithm and their payloads are
  equal, or are an Ed25519 key and its info structure, or are secp256k1
  payloads with one compressed form. -/
theorem sameKey_congruence :
    (∀ a b : Key, a.sameKey b = true ↔ a.canonical = b.canonical)
      ∧ (∀ k : Key, k.canonical.canonical = k.canonical
        ∧ k.canonical.sameKey k = true)
      ∧ Equivalence (fun a b : Key => a.sameKey b = true)
      ∧ (∀ as bs : List Key,
        (list as).sameKey (list bs) = true ↔ SamePlaces as bs)
      ∧ (∀ (m n : UInt32) (as bs : List Key),
        (threshold m as).sameKey (threshold n bs) = true
          ↔ m = n ∧ SamePlaces as bs)
      ∧ (∀ as bs : KeyList,
        as.sameKeys bs = true ↔ SamePlaces as.members bs.members)
      ∧ (∀ a b : Key, a.sameKey b = true → a.ctorIdx = b.ctorIdx
        ∧ a.leaves.map LeafKey.algorithm = b.leaves.map LeafKey.algorithm
        ∧ a.depth = b.depth)
      ∧ ∀ a b : LeafKey, (leaf a).sameKey (leaf b) = true
        ↔ a.algorithm = b.algorithm
          ∧ LeafKey.SamePayload a.algorithm a.bytes b.bytes := by
  refine ⟨sameKey_iff, fun k => ⟨canonical_canonical k, ?_⟩, ?_,
    fun as bs => ?_, fun m n as bs => ?_, fun as bs => ?_,
    fun a b h => alike_of_outline (outline_of_sameKey h), fun a b => ?_⟩
  · exact (sameKey_iff _ _).2 (canonical_canonical k)
  · -- Equality of canonical forms is an equivalence whatever the forms are.
    constructor
    · exact fun a => (sameKey_iff a a).2 rfl
    · intro a b h
      exact (sameKey_iff b a).2 ((sameKey_iff a b).1 h).symm
    · intro a b c hab hbc
      have hforms := ((sameKey_iff a b).1 hab).trans ((sameKey_iff b c).1 hbc)
      exact (sameKey_iff a c).2 hforms
  · rw [sameKey, sameKeys_iff_samePlaces]
  · rw [sameKey, Bool.and_eq_true, beq_iff_eq, sameKeys_iff_samePlaces]
  · exact sameKeys_iff_samePlaces as.members bs.members
  · rw [sameKey, LeafKey.sameKey_iff_forms]

-- ===================================================== one key in two forms

/-- A plain Ed25519 key. -/
def plainKey : LeafKey :=
  .ed25519 (List.replicate 32 7)

/-- The same key in its info structure. -/
def wrappedKey : LeafKey :=
  .ed25519 (LeafKey.ed25519Header ++ List.replicate 32 7)

/-- A secp256k1 point with an odd second coordinate, uncompressed. -/
def openPoint : LeafKey :=
  ⟨.ecdsaSecp256k1,
    0x04 :: (List.replicate 32 17 ++ (List.replicate 31 34 ++ [3]))⟩

/-- The same point, compressed. -/
def shortPoint : LeafKey :=
  ⟨.ecdsaSecp256k1, 0x03 :: List.replicate 32 17⟩

/-- Thresholds over one key and one point, each in another form, are related,
so their heights agree; with another count they are not, although their
members are related. -/
theorem sameKey_congruence_forms :
    (threshold 1 [leaf plainKey, leaf openPoint]).sameKey
        (threshold 1 [leaf wrappedKey, leaf shortPoint]) = true
      ∧ (threshold 1 [leaf plainKey, leaf openPoint]).depth
        = (threshold 1 [leaf wrappedKey, leaf shortPoint]).depth
      ∧ (threshold 1 [leaf plainKey, leaf openPoint]).sameKey
        (threshold 2 [leaf wrappedKey, leaf shortPoint]) = false := by
  obtain ⟨-, -, -, -, hthreshold, -, halike, hleaf⟩ := sameKey_congruence
  have hkey : (leaf plainKey).sameKey (leaf wrappedKey) = true :=
    (hleaf _ _).2 ⟨rfl, Or.inr (Or.inl ⟨rfl, Or.inr ⟨rfl, rfl⟩⟩)⟩
  have hpoint : (leaf openPoint).sameKey (leaf shortPoint) = true :=
    (hleaf _ _).2 ⟨rfl, Or.inr (Or.inr ⟨rfl, shortPoint.bytes,
      .point rfl rfl, .other (Or.inl (by decide))⟩)⟩
  have hplaces : SamePlaces [leaf plainKey, leaf openPoint]
      [leaf wrappedKey, leaf shortPoint] := by
    refine ⟨rfl, fun i a b ha hb => ?_⟩
    match i with
    | 0 =>
        cases ha
        cases hb
        exact hkey
    | 1 =>
        cases ha
        cases hb
        exact hpoint
    | i + 2 => cases ha
  have hsame := (hthreshold 1 1 _ _).2 ⟨rfl, hplaces⟩
  refine ⟨hsame, (halike _ _ hsame).2.2, ?_⟩
  rw [← Bool.not_eq_true, hthreshold]
  rintro ⟨h, -⟩
  cases h

end Key

end SigningOrder
