/-
When the same signatures satisfy two keys, or one key under two rules. Four
facts carry every later statement on who can authorize what:

- keys with one canonical form are satisfied alike, as long as signing does
  not tell apart leaves that decode to one public key (`isActive_congr`);
- what satisfies a key under a rule satisfies it with further signatures,
  and under a rule that needs no more for any list in it (`isActive_mono`);
  so it satisfies it under the rule for the keys of a file
  (`isActive_topLevelFile`);
- where the list of that rule is itself satisfied, the rule relaxes
  nothing, at any depth (`isActive_topLevelFile_eq`);
- the steps to and from the relaxed rule need its list to have a member. An
  empty one could be satisfied by nobody under the relaxed rule and by
  everybody under the usual one; `KeyList.make` builds none.
-/
import SigningOrder.Activation
import SigningOrder.Proofs.Key.Decoding
import SigningOrder.Proofs.Key.Shape

namespace SigningOrder

/-- Signing that does not tell apart two leaves that decode to one public
key. -/
def LeafKey.Alike (signed : LeafKey → Bool) : Prop :=
  ∀ a b : LeafKey, a.sameKey b = true → signed a = signed b

/-- Signing by the holders of some leaves, however these are encoded. -/
def LeafKey.signedBy (holders : List LeafKey) (l : LeafKey) : Bool :=
  holders.any fun h => h.sameKey l

/-- Who holds a leaf holds it in every encoding. -/
theorem LeafKey.alike_signedBy (holders : List LeafKey) :
    LeafKey.Alike (LeafKey.signedBy holders) := by
  intro a b hab
  have hcanon := (LeafKey.sameKey_iff a b).1 hab
  have heach : ∀ h : LeafKey, h.sameKey a = h.sameKey b := by
    intro h
    rw [Bool.eq_iff_iff, LeafKey.sameKey_iff, LeafKey.sameKey_iff, hcanon]
  unfold LeafKey.signedBy
  rw [funext heach]

variable {signed : LeafKey → Bool}

-- ====================================================== counting members

theorem Key.countActive_eq {rule : Activation} (ks : List Key) :
    Key.countActive rule signed ks = ks.countP (Key.isActive rule signed) := by
  induction ks with
  | nil => rfl
  | cons k ks ih => rw [Key.countActive, ih, List.countP_cons, Nat.add_comm]

/-- A list is satisfied when as many of its members are as the rule needs. -/
theorem Key.isActive_list {rule : Activation} {ks : List Key} :
    (Key.list ks).isActive rule signed = true
      ↔ rule.neededForList ks ≤ ks.countP (Key.isActive rule signed) := by
  rw [Key.isActive, Key.countActive_eq, decide_eq_true_iff]

/-- A threshold is satisfied when as many of its members are as it says,
under any rule. -/
theorem Key.isActive_threshold {rule : Activation} {n : UInt32}
    {ks : List Key} :
    (Key.threshold n ks).isActive rule signed = true
      ↔ n.toNat ≤ ks.countP (Key.isActive rule signed) := by
  rw [Key.isActive, Key.countActive_eq, decide_eq_true_iff]

-- ==================================== more signatures, and an easier rule

/-- What satisfies a key satisfies it with further signatures of its own
leaves, and under a rule that needs no more for any list in it. The
induction takes both at once: a composite has no fewer members satisfied,
and a list needs no more of them. -/
theorem Key.isActive_mono {rule rule' : Activation}
    {signed signed' : LeafKey → Bool} {k : Key}
    (hsigned : ∀ l ∈ k.leaves, signed l = true → signed' l = true)
    (hrule : ∀ ks, (Key.list ks).StandsIn k →
      rule'.neededForList ks ≤ rule.neededForList ks)
    (h : k.isActive rule signed = true) : k.isActive rule' signed' = true := by
  induction k using Key.ind with
  | leaf l =>
      rw [Key.isActive] at h ⊢
      exact hsigned l (List.mem_singleton.2 rfl) h
  | list ks ih =>
      have hcount : ks.countP (Key.isActive rule signed)
          ≤ ks.countP (Key.isActive rule' signed') :=
        List.countP_mono_left fun k hk => ih k hk
          (fun l hl => hsigned l (Key.mem_leaves_of_mem hk hl))
          (fun qs hqs => hrule qs (hqs.of_mem hk))
      have hneeded := hrule ks (Or.inl rfl)
      rw [Key.isActive_list] at h ⊢
      omega
  | threshold n ks ih =>
      have hcount : ks.countP (Key.isActive rule signed)
          ≤ ks.countP (Key.isActive rule' signed') :=
        List.countP_mono_left fun k hk => ih k hk
          (fun l hl => hsigned l (Key.mem_leaves_of_mem hk hl))
          (fun qs hqs => hrule qs (hqs.of_mem hk))
      rw [Key.isActive_threshold] at h ⊢
      omega

/-- Whether a key is satisfied depends on the signatures of its own leaves,
and on what the rule needs for the lists in it. -/
theorem Key.isActive_eq {rule rule' : Activation}
    {signed signed' : LeafKey → Bool} {k : Key}
    (hsigned : ∀ l ∈ k.leaves, signed l = signed' l)
    (hrule : ∀ ks, (Key.list ks).StandsIn k →
      rule.neededForList ks = rule'.neededForList ks) :
    k.isActive rule signed = k.isActive rule' signed' := by
  rw [Bool.eq_iff_iff]
  constructor
  · refine Key.isActive_mono (fun l hl => ?_) fun ks hks => ?_
    · rw [hsigned l hl]
      exact id
    · exact Nat.le_of_eq (hrule ks hks).symm
  · refine Key.isActive_mono (fun l hl => ?_) fun ks hks => ?_
    · rw [hsigned l hl]
      exact id
    · exact Nat.le_of_eq (hrule ks hks)

-- ============================================= the same canonical form

/-- The number that a list needs, of members or of one, goes with its
canonical form. -/
theorem Activation.neededForList_congr (rule : Activation) {as bs : List Key}
    (h : Key.canonicalMembers as = Key.canonicalMembers bs) :
    rule.neededForList as = rule.neededForList bs := by
  have hlen := Key.length_eq_of_canonicalMembers h
  cases rule with
  | standard => exact hlen
  | topLevelFile wacl =>
      unfold Activation.neededForList
      have hsame : Key.sameKeys as wacl.members
          = Key.sameKeys bs wacl.members := by
        rw [Bool.eq_iff_iff, Key.sameKeys_iff, Key.sameKeys_iff, h]
      simp only [hsame, hlen]

mutual

/-- Keys with one canonical form are satisfied by the same signatures. -/
theorem Key.isActive_congr (hsigned : LeafKey.Alike signed)
    (rule : Activation) : ∀ k k' : Key, k.canonical = k'.canonical →
      k.isActive rule signed = k'.isActive rule signed
  | .leaf a, .leaf b, h => by
      unfold Key.canonical at h
      unfold Key.isActive
      exact hsigned a b ((LeafKey.sameKey_iff a b).2 (Key.leaf.inj h))
  | .list as, .list bs, h => by
      unfold Key.canonical at h
      have hmem := Key.list.inj h
      unfold Key.isActive
      rw [Key.countActive_congr hsigned rule as bs hmem,
        rule.neededForList_congr hmem]
  | .threshold m as, .threshold n bs, h => by
      unfold Key.canonical at h
      obtain ⟨hn, hmem⟩ := Key.threshold.inj h
      unfold Key.isActive
      rw [Key.countActive_congr hsigned rule as bs hmem, hn]
  | .leaf _, .list _, h => by simp [Key.canonical] at h
  | .leaf _, .threshold _ _, h => by simp [Key.canonical] at h
  | .list _, .leaf _, h => by simp [Key.canonical] at h
  | .list _, .threshold _ _, h => by simp [Key.canonical] at h
  | .threshold _ _, .leaf _, h => by simp [Key.canonical] at h
  | .threshold _ _, .list _, h => by simp [Key.canonical] at h

/-- Of members with one canonical form equally many are satisfied. -/
theorem Key.countActive_congr (hsigned : LeafKey.Alike signed)
    (rule : Activation) : ∀ as bs : List Key,
      Key.canonicalMembers as = Key.canonicalMembers bs →
      Key.countActive rule signed as = Key.countActive rule signed bs
  | [], [], _ => rfl
  | a :: as, b :: bs, h => by
      unfold Key.canonicalMembers at h
      obtain ⟨hhead, htail⟩ := List.cons.inj h
      unfold Key.countActive
      rw [Key.isActive_congr hsigned rule a b hhead,
        Key.countActive_congr hsigned rule as bs htail]
  | [], _ :: _, h => by simp [Key.canonicalMembers] at h
  | _ :: _, [], h => by simp [Key.canonicalMembers] at h

end

-- ==================================================== the relaxed rule

/-- A list that was built has a member. -/
theorem KeyList.members_ne_nil_of_make {ks : List Key} {l : KeyList}
    (h : KeyList.make ks = .ok l) : l.members ≠ [] := by
  unfold KeyList.make at h
  split at h
  · cases h
  · next hmember =>
      split at h
      · cases h
        exact hmember
      · cases h

/-- The relaxed rule needs one member of a copy of its own list. -/
theorem Activation.neededForList_copy {wacl : KeyList} {ks : List Key}
    (hsame : Key.sameKeys ks wacl.members = true) :
    (Activation.topLevelFile wacl).neededForList ks = 1 :=
  if_pos hsame

/-- The relaxed rule needs all members of any other list. -/
theorem Activation.neededForList_other {wacl : KeyList} {ks : List Key}
    (hsame : ¬Key.sameKeys ks wacl.members = true) :
    (Activation.topLevelFile wacl).neededForList ks = ks.length :=
  if_neg hsame

/-- The relaxed rule never needs more than all members, as its own list has
at least the one that it asks for. -/
theorem Activation.neededForList_topLevelFile_le {wacl : KeyList}
    (hwacl : wacl.members ≠ []) (ks : List Key) :
    (Activation.topLevelFile wacl).neededForList ks ≤ ks.length := by
  by_cases hsame : Key.sameKeys ks wacl.members = true
  · have hlen := Key.length_eq_of_canonicalMembers
      ((Key.sameKeys_iff ks wacl.members).1 hsame)
    have hpos := List.length_pos_iff.2 hwacl
    rw [Activation.neededForList_copy hsame]
    omega
  · exact Nat.le_of_eq (Activation.neededForList_other hsame)

/-- What satisfies a key under the usual rule satisfies it under the relaxed
one. -/
theorem Key.isActive_topLevelFile {wacl : KeyList}
    (hwacl : wacl.members ≠ []) (k : Key)
    (h : k.isActive .standard signed = true) :
    k.isActive (.topLevelFile wacl) signed = true := by
  refine Key.isActive_mono (fun _ _ hl => hl) (fun ks _ => ?_) h
  exact Activation.neededForList_topLevelFile_le hwacl ks

mutual

/-- Where the list of the relaxed rule is satisfied as a whole, the rule
relaxes nothing: a copy of that list, wherever it stands in the key, has
all of its members satisfied anyway. -/
theorem Key.isActive_topLevelFile_eq (hsigned : LeafKey.Alike signed)
    {wacl : KeyList} (hwacl : wacl.members ≠ [])
    (hact : (Key.ofKeyList wacl).isActive .standard signed = true) :
    ∀ k : Key, k.isActive (.topLevelFile wacl) signed
      = k.isActive .standard signed
  | .leaf _ => by
      unfold Key.isActive
      rfl
  | .list ks => by
      by_cases hsame : Key.sameKeys ks wacl.members = true
      · -- the list of the rule itself, or a copy of it
        have hcanon : (Key.list ks).canonical
            = (Key.ofKeyList wacl).canonical := by
          unfold Key.ofKeyList Key.canonical
          rw [(Key.sameKeys_iff ks wacl.members).1 hsame]
        have hstd : (Key.list ks).isActive .standard signed = true := by
          rw [Key.isActive_congr hsigned .standard _ _ hcanon]
          exact hact
        rw [hstd]
        exact Key.isActive_topLevelFile hwacl _ hstd
      · -- any other list needs all of its members under both rules
        unfold Key.isActive
        rw [Key.countActive_topLevelFile_eq hsigned hwacl hact ks,
          Activation.neededForList_other hsame]
        rfl
  | .threshold m ks => by
      unfold Key.isActive
      rw [Key.countActive_topLevelFile_eq hsigned hwacl hact ks]

/-- Where the list of the relaxed rule is satisfied as a whole, the rule
satisfies no further members. -/
theorem Key.countActive_topLevelFile_eq (hsigned : LeafKey.Alike signed)
    {wacl : KeyList} (hwacl : wacl.members ≠ [])
    (hact : (Key.ofKeyList wacl).isActive .standard signed = true) :
    ∀ ks : List Key, Key.countActive (.topLevelFile wacl) signed ks
      = Key.countActive .standard signed ks
  | [] => rfl
  | k :: ks => by
      unfold Key.countActive
      rw [Key.isActive_topLevelFile_eq hsigned hwacl hact k,
        Key.countActive_topLevelFile_eq hsigned hwacl hact ks]

end

end SigningOrder
