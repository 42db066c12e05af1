/-
Written keys that are cut short or go on. The nodes of a key say themselves
where they end: a strict part of them from the front is refused as truncated,
and with nodes behind them they are refused for those
(`ofNodes_of_cut_or_padded`). So the nodes of one key are never the beginning
of those of another.

Padding is read over by `readNode_nodes_append`, which leaves what is behind a
key. The induction here is on where in the pre-order the cut falls: the keys
in front of it are read in full, and the key that it falls into is still
waiting for a node, at a level where it may be. No check of a composite is
reached, since a composite is checked behind its last member.
-/
import SigningOrder.Proofs.Key.Wire

namespace SigningOrder

namespace Key

-- ================================================================ cut short

/-- Where one more key may stand, the end of the nodes is what is wrong. -/
theorem readNode_nil {levels : Nat} (h : 1 ≤ levels) :
    readNode levels [] = .error .truncated := by
  obtain ⟨n, rfl⟩ := Nat.exists_eq_add_of_le' h
  rfl

/-- A composite is cut short where its members are: in front of its own node,
or behind that where the members are read. -/
theorem readNode_composite_of_cut {levels : Nat} {t missing : KeyToken}
    {children : UInt32} {nodes behind front : List KeyToken}
    (ht : t = .list children ∨ ∃ required, t = .threshold required children)
    (hcut : t :: nodes = front ++ missing :: behind)
    (hmembers : ∀ front, nodes = front ++ missing :: behind →
      readMembers (readNode levels) children.toNat front = .error .truncated) :
    readNode (levels + 1) front = .error .truncated := by
  rcases List.cons_eq_append_iff.1 hcut with ⟨rfl, -⟩ | ⟨front, rfl, hbehind⟩
  · exact readNode_nil (Nat.le_add_left 1 levels)
  · rcases ht with rfl | ⟨required, rfl⟩
    · rw [readNode, hmembers front hbehind]
      rfl
    · rw [readNode, hmembers front hbehind]
      rfl

mutual

/-- The nodes of a key up to one that is missing are truncated. -/
theorem readNode_of_cut {levels : Nat} (hlevels : levels ≤ maxKeyDepth)
    {missing : KeyToken} {behind : List KeyToken} :
    ∀ (k : Key) (front : List KeyToken), k.WellFormed → k.Countable →
      k.depth ≤ levels → k.nodes = front ++ missing :: behind →
      readNode levels front = .error .truncated
  | .leaf l, front, _, _, hdepth, hcut => by
      unfold depth at hdepth
      unfold nodes at hcut
      obtain rfl : front = [] := by
        rcases List.append_eq_singleton_iff.1 hcut.symm with ⟨h, -⟩ | ⟨-, h⟩
        · exact h
        · cases h
      exact readNode_nil hdepth
  | .list members, front, hwf, hcount, hdepth, hcut => by
      unfold WellFormed at hwf
      unfold Countable at hcount
      unfold depth at hdepth
      unfold nodes at hcut
      obtain ⟨n, rfl⟩ : ∃ n, levels = n + 1 := ⟨levels - 1, by omega⟩
      refine readNode_composite_of_cut (.inl rfl) hcut fun front hcut => ?_
      rw [KeyToken.toNat_count hcount.1]
      exact readMembers_of_cut (by omega) members front hwf.2 hcount.2
        (by omega) hcut
  | .threshold required members, front, hwf, hcount, hdepth, hcut => by
      unfold WellFormed at hwf
      unfold Countable at hcount
      unfold depth at hdepth
      unfold nodes at hcut
      obtain ⟨n, rfl⟩ : ∃ n, levels = n + 1 := ⟨levels - 1, by omega⟩
      refine readNode_composite_of_cut (.inr ⟨required, rfl⟩) hcut
        fun front hcut => ?_
      rw [KeyToken.toNat_count hcount.1]
      exact readMembers_of_cut (by omega) members front hwf.2.2.2 hcount.2
        (by omega) hcut

/-- The nodes of keys up to one that is missing are truncated. -/
theorem readMembers_of_cut {levels : Nat} (hlevels : levels ≤ maxKeyDepth)
    {missing : KeyToken} {behind : List KeyToken} :
    ∀ (ks : List Key) (front : List KeyToken), AllWellFormed ks →
      AllCountable ks → maxDepth ks ≤ levels →
      nodesOf ks = front ++ missing :: behind →
      readMembers (readNode levels) ks.length front = .error .truncated
  | [], front, _, _, _, hcut => by
      unfold nodesOf at hcut
      exact absurd hcut.symm (List.append_ne_nil_of_right_ne_nil _ nofun)
  | k :: ks, front, hwf, hcount, hdepth, hcut => by
      unfold AllWellFormed at hwf
      unfold AllCountable at hcount
      unfold maxDepth at hdepth
      unfold nodesOf at hcut
      -- The first key is read in full, or the cut falls into it.
      by_cases hfull : ∃ middle, front = k.nodes ++ middle
      · obtain ⟨middle, rfl⟩ := hfull
        rw [List.append_assoc] at hcut
        have hhead := readNode_nodes_append hlevels middle k hwf.1 hcount.1
          (by omega)
        have htail := readMembers_of_cut hlevels ks middle hwf.2 hcount.2
          (by omega) (List.append_cancel_left hcut)
        rw [List.length_cons, readMembers, hhead]
        show (readMembers (readNode levels) ks.length middle
          >>= fun x => pure (k :: x.1, x.2)) = _
        rw [htail]
        rfl
      · obtain ⟨behind, hinto⟩ :
            ∃ behind, k.nodes = front ++ missing :: behind := by
          rcases List.append_eq_append_iff.1 hcut with
            ⟨middle, hmiddle, -⟩ | ⟨middle, hmiddle, hbehind⟩
          · exact absurd ⟨middle, hmiddle⟩ hfull
          · cases middle with
            | nil => exact absurd ⟨[], by rw [hmiddle]; simp⟩ hfull
            | cons t middle =>
                cases (List.cons.inj hbehind).1
                exact ⟨middle, hmiddle⟩
        have hhead := readNode_of_cut hlevels k front hwf.1 hcount.1 (by omega)
          hinto
        rw [List.length_cons, readMembers, hhead]
        rfl

end

-- ============================================================= whole arrays

variable {k : Key}

/-- A part of the nodes from the front, and not all of them, is truncated. -/
theorem ofNodes_of_cut (hvalid : k.Valid) (hcount : k.Countable)
    {front : List KeyToken} (hfront : front <+: k.nodes)
    (hne : front ≠ k.nodes) : ofNodes front = .error .truncated := by
  obtain ⟨back, hback⟩ := hfront
  cases back with
  | nil => exact absurd (by rwa [List.append_nil] at hback) hne
  | cons missing behind =>
      have hread := readNode_of_cut (Nat.le_refl _) k front hvalid.1 hcount
        hvalid.2 hback.symm
      unfold ofNodes
      rw [hread]
      rfl

/-- Nodes behind those of a key are too many, and all of them are counted. -/
theorem ofNodes_of_padded (hvalid : k.Valid) (hcount : k.Countable)
    {extra : List KeyToken} (hextra : extra ≠ []) :
    ofNodes (k.nodes ++ extra) = .error (.trailingNodes extra.length) := by
  have hread := readNode_nodes_append (Nat.le_refl _) extra k hvalid.1 hcount
    hvalid.2
  unfold ofNodes
  rw [hread]
  exact if_neg hextra

/-- The nodes of a key that may exist are truncated wherever they are cut, and
with nodes behind them these are trailing, however many. So if the nodes of
one such key begin those of another, it is the same key. -/
theorem ofNodes_of_cut_or_padded (k : Key) (hvalid : k.Valid)
    (hcount : k.Countable) :
    (∀ front, front <+: k.nodes → front ≠ k.nodes →
        ofNodes front = .error .truncated)
      ∧ (∀ extra, extra ≠ [] →
        ofNodes (k.nodes ++ extra) = .error (.trailingNodes extra.length))
      ∧ ∀ k' : Key, k'.Valid → k'.Countable → k.nodes <+: k'.nodes → k = k' := by
  refine ⟨fun front => ofNodes_of_cut hvalid hcount,
    fun extra => ofNodes_of_padded hvalid hcount, ?_⟩
  intro k' hvalid' hcount' hbegin
  have hread := ofNodes_nodes hvalid hcount
  by_cases hsame : k.nodes = k'.nodes
  · rw [hsame, ofNodes_nodes hvalid' hcount'] at hread
    exact (Except.ok.inj hread).symm
  · rw [ofNodes_of_cut hvalid' hcount' hbegin hsame] at hread
    cases hread

/-- Two of two holders, and a third one. -/
def threeHolders : Key :=
  .list [.threshold 2 [.leaf (.ed25519 [1]), .leaf (.ed25519 [2])],
    .leaf (.ed25519 [3])]

/-- A nested threshold that lacks its last member, no nodes at all, and two
nodes too many, which are no key by themselves. -/
theorem ofNodes_of_cut_or_padded_threeHolders :
    threeHolders.Valid ∧ threeHolders.Countable
      ∧ ofNodes [.list 2, .threshold 2 2, .leaf (.ed25519 [1])]
        = .error .truncated
      ∧ ofNodes [] = .error .truncated
      ∧ ofNodes (threeHolders.nodes ++ [.list 0, .threshold 7 1])
        = .error (.trailingNodes 2) := by
  have hvalid : threeHolders.Valid := by
    simp [threeHolders, Valid, WellFormed, AllWellFormed, depth, maxDepth,
      maxKeyDepth, LeafKey.ed25519]
  have hcount : threeHolders.Countable := by
    simp [threeHolders, Countable, AllCountable, UInt32.size]
  have hthree := ofNodes_of_cut_or_padded threeHolders hvalid hcount
  exact ⟨hvalid, hcount,
    hthree.1 _ ⟨[.leaf (.ed25519 [2]), .leaf (.ed25519 [3])], rfl⟩ (by decide),
    hthree.1 _ List.nil_prefix (by decide), hthree.2.1 _ (by decide)⟩

end Key

end SigningOrder
