/-
Keys up to decodability. `Key.sameKey` walks two trees side by side and
`Key.canonical` rewrites one; this file says that they are one relation:
two keys are the same exactly when they have one canonical form. All later
files reason with equality of canonical forms, which is an equivalence for
free, and come back to `sameKey` only where a statement names it.
-/
import SigningOrder.Key.Canonical

namespace SigningOrder

-- ================================================================== leaves

/-- Leaves decode to one public key exactly when they have one canonical
form. -/
theorem LeafKey.sameKey_iff (a b : LeafKey) :
    a.sameKey b = true ↔ a.canonical = b.canonical := by
  unfold LeafKey.sameKey LeafKey.canonical
  rw [Bool.and_eq_true, beq_iff_eq, beq_iff_eq, LeafKey.mk.injEq]

-- =================================================================== trees

mutual

/-- Trees are the same exactly when they have one canonical form. The
induction follows the two trees at once: constructors that differ are
refused by both sides. -/
theorem Key.sameKey_iff : ∀ a b : Key,
    Key.sameKey a b = true ↔ a.canonical = b.canonical
  | .leaf a, .leaf b => by
      unfold Key.sameKey Key.canonical
      rw [LeafKey.sameKey_iff, Key.leaf.injEq]
  | .list as, .list bs => by
      unfold Key.sameKey Key.canonical
      rw [Key.sameKeys_iff as bs, Key.list.injEq]
  | .threshold m as, .threshold n bs => by
      unfold Key.sameKey Key.canonical
      rw [Bool.and_eq_true, beq_iff_eq, Key.sameKeys_iff as bs,
        Key.threshold.injEq]
  | .leaf _, .list _ => by simp [Key.sameKey, Key.canonical]
  | .leaf _, .threshold _ _ => by simp [Key.sameKey, Key.canonical]
  | .list _, .leaf _ => by simp [Key.sameKey, Key.canonical]
  | .list _, .threshold _ _ => by simp [Key.sameKey, Key.canonical]
  | .threshold _ _, .leaf _ => by simp [Key.sameKey, Key.canonical]
  | .threshold _ _, .list _ => by simp [Key.sameKey, Key.canonical]

/-- Members are the same pairwise exactly when their canonical forms are
one list. -/
theorem Key.sameKeys_iff : ∀ as bs : List Key,
    Key.sameKeys as bs = true
      ↔ Key.canonicalMembers as = Key.canonicalMembers bs
  | [], [] => by simp [Key.sameKeys, Key.canonicalMembers]
  | a :: as, b :: bs => by
      unfold Key.sameKeys Key.canonicalMembers
      rw [Bool.and_eq_true, Key.sameKey_iff a b, Key.sameKeys_iff as bs,
        List.cons.injEq]
  | [], _ :: _ => by simp [Key.sameKeys, Key.canonicalMembers]
  | _ :: _, [] => by simp [Key.sameKeys, Key.canonicalMembers]

end

/-- The canonical form of a list has as many members. -/
theorem Key.length_canonicalMembers (ks : List Key) :
    (Key.canonicalMembers ks).length = ks.length := by
  induction ks with
  | nil => rfl
  | cons k ks ih =>
      unfold Key.canonicalMembers
      rw [List.length_cons, List.length_cons, ih]

/-- Lists with one canonical form have equally many members. -/
theorem Key.length_eq_of_canonicalMembers {as bs : List Key}
    (h : Key.canonicalMembers as = Key.canonicalMembers bs) :
    as.length = bs.length := by
  rw [← Key.length_canonicalMembers as, h, Key.length_canonicalMembers]

end SigningOrder
