/-
What signatures decide about a key. Activation counts satisfied members at
every composite, and this file says what the counting amounts to.

It goes by what leaves decode to (`activation_respects_decoding`): keys that
decode to the same are satisfied alike, also under the rules for two lists
that decode to the same. The rule looks at its list only to compare it, so
two such rules need the same of every list.

It is monotone and never vacuous (`activation_monotone`). Both come from the
numbers that are needed. Whatever the rule, a list with members needs one of
them at least and all at most (`one_le_neededForList`, `neededForList_le`),
and in a populated tree the same holds of thresholds. So no composite is
satisfied by nothing and each is by everything, and the relaxed rule never
needs more than the usual one. An empty list or a threshold of zero would be
satisfied by nobody's signature, and one such member in a tree would count.
-/
import SigningOrder.Proofs.Key.Canonical
import SigningOrder.Proofs.Key.Satisfied

namespace SigningOrder

-- ====================================================== statement vocabulary

/-- The composites of a key have members, and its thresholds ask for one of
them at least and for all at most. -/
inductive Key.Populated : Key → Prop where
  | leaf (l : LeafKey) : Populated (.leaf l)
  | list {ks : List Key} (hne : ks ≠ []) (hks : ∀ k ∈ ks, Populated k) :
      Populated (.list ks)
  | threshold {n : UInt32} {ks : List Key} (hlow : 1 ≤ n.toNat)
      (hhigh : n.toNat ≤ ks.length) (hks : ∀ k ∈ ks, Populated k) :
      Populated (.threshold n ks)

-- ============================================================ what is needed

namespace Activation

variable {ks : List Key}

/-- Lists that decode to the same give one rule. -/
theorem neededForList_topLevelFile {wacl wacl' : KeyList}
    (h : wacl.sameKeys wacl' = true) (ks : List Key) :
    (topLevelFile wacl).neededForList ks
      = (topLevelFile wacl').neededForList ks := by
  have hcanon := (Key.sameKeys_iff wacl.members wacl'.members).1 h
  have hsame : Key.sameKeys ks wacl.members = Key.sameKeys ks wacl'.members := by
    rw [Bool.eq_iff_iff, Key.sameKeys_iff, Key.sameKeys_iff, hcanon]
  show (if Key.sameKeys ks wacl.members then 1 else ks.length) = _
  rw [hsame]
  rfl

/-- A list with members needs one of them at least. -/
theorem one_le_neededForList (rule : Activation) (hne : ks ≠ []) :
    1 ≤ rule.neededForList ks := by
  have hpos := List.length_pos_iff.2 hne
  cases rule with
  | standard => exact hpos
  | topLevelFile wacl =>
      by_cases hsame : Key.sameKeys ks wacl.members = true
      · exact Nat.le_of_eq (neededForList_copy hsame).symm
      · rw [neededForList_other hsame]
        exact hpos

/-- A list with members needs all of them at most. -/
theorem neededForList_le (rule : Activation) (hne : ks ≠ []) :
    rule.neededForList ks ≤ ks.length := by
  cases rule with
  | standard => exact Nat.le_refl _
  | topLevelFile wacl =>
      by_cases hsame : Key.sameKeys ks wacl.members = true
      · rw [neededForList_copy hsame]
        exact List.length_pos_iff.2 hne
      · exact Nat.le_of_eq (neededForList_other hsame)

end Activation

namespace Key

variable {rule : Activation} {signed signed' : LeafKey → Bool} {k k' : Key}

-- ============================================================ populated trees

/-- What may exist is populated. -/
theorem populated_of_wellFormed (h : k.WellFormed) : k.Populated := by
  induction k using ind with
  | leaf l => exact .leaf l
  | list ks ih =>
      obtain ⟨hne, hks⟩ := h
      exact .list hne fun k hk => ih k hk (allWellFormed_iff.1 hks k hk)
  | threshold n ks ih =>
      obtain ⟨-, hlow, hhigh, hks⟩ := h
      exact .threshold hlow hhigh
        fun k hk => ih k hk (allWellFormed_iff.1 hks k hk)

theorem Populated.of_mem {whole : Key} (h : whole.Populated)
    (hk : k ∈ whole.members) : k.Populated := by
  cases h with
  | leaf l => cases hk
  | list _ hks => exact hks k hk
  | threshold _ _ hks => exact hks k hk

theorem Populated.of_inside {whole : Key} (h : whole.Populated)
    (hk : k.Inside whole) : k.Populated := by
  induction hk with
  | member hmem => exact h.of_mem hmem
  | deeper _ hpart ih => exact ih (h.of_mem hpart)

/-- A list in a populated tree has members. -/
theorem Populated.list_ne_nil {ks : List Key} (h : k.Populated)
    (hks : (Key.list ks).StandsIn k) : ks ≠ [] := by
  have hlist : (Key.list ks).Populated := by
    rcases hks with rfl | hks
    · exact h
    · exact h.of_inside hks
  cases hlist with
  | list hne _ => exact hne

/-- Nobody's signatures satisfy nothing: no member is satisfied, and one at
least is needed. -/
theorem Populated.isActive_nobody (hk : k.Populated) :
    k.isActive rule (fun _ => false) = false := by
  have hcount : ∀ ks : List Key,
      (∀ k ∈ ks, k.isActive rule (fun _ => false) = false) →
      ks.countP (isActive rule fun _ => false) = 0 := by
    intro ks hks
    refine List.countP_eq_zero.2 fun k hk => ?_
    rw [hks k hk]
    exact Bool.false_ne_true
  induction hk with
  | leaf l => rw [isActive]
  | @list ks hne _ ih =>
      have hneeded := rule.one_le_neededForList hne
      rw [← Bool.not_eq_true, isActive_list, hcount ks ih]
      omega
  | @threshold n ks hlow _ _ ih =>
      rw [← Bool.not_eq_true, isActive_threshold, hcount ks ih]
      omega

/-- Everybody's signatures satisfy everything: all members are satisfied, and
no more are needed. -/
theorem Populated.isActive_everybody (hk : k.Populated) :
    k.isActive rule (fun _ => true) = true := by
  induction hk with
  | leaf l => rw [isActive]
  | @list ks hne _ ih =>
      rw [isActive_list, List.countP_eq_length.2 ih]
      exact rule.neededForList_le hne
  | @threshold n ks _ hhigh _ ih =>
      rw [isActive_threshold, List.countP_eq_length.2 ih]
      exact hhigh

/-- What satisfies a populated key under the usual rule satisfies it under the
rule for any list. -/
theorem Populated.isActive_topLevelFile (hk : k.Populated) (wacl : KeyList)
    (h : k.isActive .standard signed = true) :
    k.isActive (.topLevelFile wacl) signed = true := by
  refine isActive_mono (fun _ _ hl => hl) (fun ks hks => ?_) h
  exact Activation.neededForList_le _ (hk.list_ne_nil hks)

/-- Where no list in a key decodes to the same as that of the rule, the rule
relaxes nothing. -/
theorem isActive_topLevelFile_other {wacl : KeyList}
    (h : ∀ ks, (list ks).StandsIn k → ¬sameKeys ks wacl.members = true) :
    k.isActive (.topLevelFile wacl) signed = k.isActive .standard signed := by
  refine isActive_eq (fun _ _ => rfl) fun ks hks => ?_
  exact Activation.neededForList_other (h ks hks)

-- ============================================================== main results

/-- Activation goes by what leaves decode to. For signing that does not tell
apart leaves that decode to one public key, two keys that decode to the same
are satisfied alike under the usual rule, and so they are under the rules for
two lists that decode to the same. A key and its canonical form are satisfied
alike under every rule. -/
theorem activation_respects_decoding (signed : LeafKey → Bool)
    (hsigned : LeafKey.Alike signed) (k k' : Key) (hk : k.sameKey k' = true)
    (wacl wacl' : KeyList) (hwacl : wacl.sameKeys wacl' = true) :
    k.isActive .standard signed = k'.isActive .standard signed
      ∧ k.isActive (.topLevelFile wacl) signed
        = k'.isActive (.topLevelFile wacl') signed
      ∧ ∀ rule, k.canonical.isActive rule signed = k.isActive rule signed := by
  have hcanon := (sameKey_iff k k').1 hk
  refine ⟨isActive_congr hsigned .standard k k' hcanon, ?_, fun rule =>
    isActive_congr hsigned rule k.canonical k (canonical_canonical k)⟩
  calc k.isActive (.topLevelFile wacl) signed
      = k'.isActive (.topLevelFile wacl) signed :=
        isActive_congr hsigned _ k k' hcanon
    _ = k'.isActive (.topLevelFile wacl') signed :=
        isActive_eq (fun _ _ => rfl)
          fun ks _ => Activation.neededForList_topLevelFile hwacl ks

/-- Two keys, each in its long form. -/
def longForms : KeyList :=
  ⟨[.leaf wrappedKey, .leaf openPoint]⟩

/-- The same two keys in their short forms. -/
def shortForms : KeyList :=
  ⟨[.leaf plainKey, .leaf shortPoint]⟩

/-- The holder of the first key satisfies neither list, and either of them
under the rule for itself. -/
theorem activation_respects_decoding_forms :
    LeafKey.Alike (LeafKey.signedBy [plainKey])
      ∧ (ofKeyList longForms).sameKey (ofKeyList shortForms) = true
      ∧ longForms.sameKeys shortForms = true
      ∧ (ofKeyList longForms).isActive .standard
        (LeafKey.signedBy [plainKey]) = false
      ∧ (ofKeyList longForms).isActive (.topLevelFile longForms)
        (LeafKey.signedBy [plainKey]) = true := by
  have halike := LeafKey.alike_signedBy [plainKey]
  have hsame : longForms.sameKeys shortForms = true := by decide
  obtain ⟨hstandard, hrelaxed, -⟩ :=
    activation_respects_decoding _ halike (ofKeyList longForms)
      (ofKeyList shortForms) hsame longForms shortForms hsame
  refine ⟨halike, hsame, hsame, hstandard.trans ?_, hrelaxed.trans ?_⟩
  · decide
  · decide

/-- Activation is monotone and never vacuous. For a key whose composites have
members and whose thresholds are in range, under every rule:

- the answer depends on the signatures of its own leaves only;
- it is no where none of them has signed, and yes where all have;
- what satisfies it satisfies it with further signatures.

And whatever satisfies it under the usual rule satisfies it under the rule for
any list; the two rules agree where no list that stands in the key decodes to
the same as that one. -/
theorem activation_monotone (k : Key) (hk : k.Populated) :
    (∀ rule : Activation,
      (∀ signed signed' : LeafKey → Bool,
        (∀ l ∈ k.leaves, signed l = signed' l) →
          k.isActive rule signed = k.isActive rule signed')
      ∧ (∀ signed : LeafKey → Bool, (∀ l ∈ k.leaves, signed l = false) →
          k.isActive rule signed = false)
      ∧ (∀ signed : LeafKey → Bool, (∀ l ∈ k.leaves, signed l = true) →
          k.isActive rule signed = true)
      ∧ ∀ signed signed' : LeafKey → Bool,
        (∀ l ∈ k.leaves, signed l = true → signed' l = true) →
          k.isActive rule signed = true → k.isActive rule signed' = true)
    ∧ ∀ (wacl : KeyList) (signed : LeafKey → Bool),
      (k.isActive .standard signed = true →
        k.isActive (.topLevelFile wacl) signed = true)
      ∧ ((∀ ks, (list ks).StandsIn k → ¬sameKeys ks wacl.members = true) →
        k.isActive (.topLevelFile wacl) signed
          = k.isActive .standard signed) := by
  refine ⟨fun rule => ⟨?_, ?_, ?_, ?_⟩, fun wacl signed =>
    ⟨hk.isActive_topLevelFile wacl, isActive_topLevelFile_other⟩⟩
  · intro signed signed' h
    exact isActive_eq h fun _ _ => rfl
  · intro signed h
    rw [isActive_eq h fun _ _ => rfl]
    exact hk.isActive_nobody
  · intro signed h
    rw [isActive_eq h fun _ _ => rfl]
    exact hk.isActive_everybody
  · intro signed signed' h
    exact isActive_mono h fun _ _ => Nat.le_refl _

/-- The keys of a couple that signs together. -/
def couple : KeyList :=
  ⟨[.leaf (.ed25519 [1]), .leaf (.ed25519 [2])]⟩

/-- Two of three: a chair, the couple, and a clerk. -/
def council : Key :=
  .threshold 2 [.leaf plainKey, .ofKeyList couple, .leaf (.ed25519 [3])]

/-- Nobody is not enough. The chair and half of the couple are enough under the
rule for the keys of the couple, with more signatures too; they are not enough
under the usual rule, nor under the rule for the key of the clerk. -/
theorem activation_monotone_council :
    council.Populated
      ∧ council.isActive (.topLevelFile couple) (· ∈ []) = false
      ∧ council.isActive (.topLevelFile couple)
        (· ∈ [plainKey, .ed25519 [1]]) = true
      ∧ council.isActive (.topLevelFile couple)
        (· ∈ [plainKey, .ed25519 [1], .ed25519 [3]]) = true
      ∧ council.isActive (.topLevelFile ⟨[.leaf (.ed25519 [3])]⟩)
        (· ∈ [plainKey, .ed25519 [1]]) = false := by
  have hpopulated : council.Populated := by
    refine populated_of_wellFormed ?_
    simp [council, couple, ofKeyList, WellFormed, AllWellFormed, plainKey,
      LeafKey.ed25519]
  obtain ⟨hrule, hrules⟩ := activation_monotone council hpopulated
  obtain ⟨-, hnone, -, hmore⟩ := hrule (.topLevelFile couple)
  have hhalf : council.isActive (.topLevelFile couple)
      (· ∈ [plainKey, .ed25519 [1]]) = true := by decide
  refine ⟨hpopulated, hnone _ fun _ _ => rfl, hhalf, hmore _ _ ?_ hhalf, ?_⟩
  · intro l _ hl
    have hclerk := List.mem_append_left [LeafKey.ed25519 [3]]
      (of_decide_eq_true hl)
    exact decide_eq_true hclerk
  · rw [(hrules _ _).2 ?_]
    · decide
    · intro ks hks
      have hcouple : ks = couple.members := by
        simpa [council, couple, ofKeyList] using hks
      subst hcouple
      decide

end Key

end SigningOrder
