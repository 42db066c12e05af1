/-
The written form of keys. `Key.nodes` writes a tree as its nodes in
pre-order, and `Key.ofNodes` reads one from untrusted nodes. The two are
inverse between the keys that may exist and the nodes that are read
(`ofNodes_bijective`): what is written is read back, and what is read is what
would have been written, so no key has a second written form.

Both directions go through the reader of one node, `readNode`, at every
number of levels:

- from the nodes of a tree with anything behind them it reads that tree and
  leaves what is behind (`readNode_nodes_append`);
- whatever it reads is a tree that may exist, no higher than the levels, and
  what it has read are the nodes of that tree (`nodes_of_readNode`).

The levels are the bound on the height of what is read, so the test for the
height in the checked constructors never decides anything here.
-/
import SigningOrder.Key.Wire
import SigningOrder.Proofs.Chain

namespace SigningOrder

-- ========================================================== the two sides

mutual

/-- Every composite of a key has fewer than 2^32 members, so that a node can
hold their number. -/
def Key.Countable : Key → Prop
  | .leaf _ => True
  | .list members => members.length < UInt32.size ∧ Key.AllCountable members
  | .threshold _ members =>
    members.length < UInt32.size ∧ Key.AllCountable members

/-- The composites of all of the keys have fewer than 2^32 members. -/
def Key.AllCountable : List Key → Prop
  | [] => True
  | k :: ks => Key.Countable k ∧ Key.AllCountable ks

end

/-- Every leaf among the nodes has a payload. No other leaf can be built, so
no nodes are ever given with one. -/
def KeyToken.LeavesValid (nodes : List KeyToken) : Prop :=
  ∀ l, KeyToken.leaf l ∈ nodes → l.Valid

namespace KeyToken

/-- A number of members that fits is held as it is. -/
theorem toNat_count {n : Nat} (h : n < UInt32.size) :
    (count n).toNat = n := by
  unfold count
  rw [UInt32.toNat_ofNat_of_lt' (by omega)]
  omega

/-- A node holds the number of members that were read for it. -/
theorem count_toNat (n : UInt32) : count n.toNat = n := by
  have h : n.toNat < UInt32.size := n.toNat_lt
  exact UInt32.toNat_inj.1 (toNat_count h)

/-- Behind nodes whose leaves have payloads come no others. -/
theorem LeavesValid.of_append {front back : List KeyToken}
    (h : LeavesValid (front ++ back)) : LeavesValid back :=
  fun l hl => h l (List.mem_append_right front hl)

end KeyToken

namespace Key

-- ================================================== checked constructors

/-- A list is built of members that leave room for its level. -/
theorem makeList_eq_ok {members : List Key} {k : Key} :
    makeList members = .ok k
      ↔ members ≠ [] ∧ maxDepth members < maxKeyDepth ∧ k = list members := by
  unfold makeList KeyList.make
  by_cases hnil : members = []
  · simp [hnil, bind, Except.bind]
  · by_cases hdepth : maxDepth members < maxKeyDepth
    · simp [hnil, hdepth, bind, Except.bind, pure, Except.pure, eq_comm]
    · simp [hnil, hdepth, bind, Except.bind]

/-- A threshold is built of members that leave room for its level, and asks
for one of them at least and all of them at most. -/
theorem makeThreshold_eq_ok {required : UInt32} {members : List Key} {k : Key} :
    makeThreshold required members = .ok k
      ↔ members ≠ [] ∧ maxDepth members < maxKeyDepth
        ∧ 1 ≤ required.toNat ∧ required.toNat ≤ members.length
        ∧ k = threshold required members := by
  unfold makeThreshold KeyList.make
  by_cases hnil : members = []
  · simp [hnil, bind, Except.bind]
  · by_cases hdepth : maxDepth members < maxKeyDepth
    · by_cases hrange : 1 ≤ required.toNat ∧ required.toNat ≤ members.length
      · simp [hnil, hdepth, hrange, bind, Except.bind, pure, Except.pure,
          eq_comm]
      · rw [← and_assoc (a := 1 ≤ required.toNat)]
        simp only [hnil, hdepth, hrange, bind, Except.bind, if_false, if_true,
          false_and, and_false, iff_false]
        exact nofun
    · simp [hnil, hdepth, bind, Except.bind]

-- ================================================= what is written is read

mutual

/-- The nodes of a key, with anything behind them, are read as the key. -/
theorem readNode_nodes_append {levels : Nat} (hlevels : levels ≤ maxKeyDepth)
    (rest : List KeyToken) : ∀ k : Key, k.WellFormed → k.Countable →
      k.depth ≤ levels → readNode levels (k.nodes ++ rest) = .ok (k, rest)
  | .leaf l, _, _, hdepth => by
      unfold depth at hdepth
      obtain ⟨n, rfl⟩ := Nat.exists_eq_add_of_le' hdepth
      rfl
  | .list members, hwf, hcount, hdepth => by
      unfold WellFormed at hwf
      unfold Countable at hcount
      unfold depth at hdepth
      obtain ⟨n, rfl⟩ : ∃ n, levels = n + 1 := ⟨levels - 1, by omega⟩
      have hread := readMembers_nodesOf_append (by omega) rest members hwf.2
        hcount.2 (show maxDepth members ≤ n by omega)
      have hmake := makeList_eq_ok.2 ⟨hwf.1, by omega, rfl⟩
      rw [nodes, List.cons_append, readNode, KeyToken.toNat_count hcount.1,
        hread]
      show (makeList members >>= fun k => pure (k, rest)) = _
      rw [hmake]
      rfl
  | .threshold required members, hwf, hcount, hdepth => by
      unfold WellFormed at hwf
      unfold Countable at hcount
      unfold depth at hdepth
      obtain ⟨n, rfl⟩ : ∃ n, levels = n + 1 := ⟨levels - 1, by omega⟩
      obtain ⟨hnil, hlow, hhigh, hall⟩ := hwf
      have hread := readMembers_nodesOf_append (by omega) rest members hall
        hcount.2 (show maxDepth members ≤ n by omega)
      have hmake := makeThreshold_eq_ok.2 ⟨hnil, by omega, hlow, hhigh, rfl⟩
      rw [nodes, List.cons_append, readNode, KeyToken.toNat_count hcount.1,
        hread]
      show (makeThreshold required members >>= fun k => pure (k, rest)) = _
      rw [hmake]
      rfl

/-- The nodes of keys, one after the other, are read as the keys. -/
theorem readMembers_nodesOf_append {levels : Nat}
    (hlevels : levels ≤ maxKeyDepth) (rest : List KeyToken) :
    ∀ ks : List Key, AllWellFormed ks → AllCountable ks →
      maxDepth ks ≤ levels →
      readMembers (readNode levels) ks.length (nodesOf ks ++ rest)
        = .ok (ks, rest)
  | [], _, _, _ => rfl
  | k :: ks, hwf, hcount, hdepth => by
      unfold AllWellFormed at hwf
      unfold AllCountable at hcount
      unfold maxDepth at hdepth
      have hhead := readNode_nodes_append hlevels (nodesOf ks ++ rest) k hwf.1
        hcount.1 (by omega)
      have htail := readMembers_nodesOf_append hlevels rest ks hwf.2 hcount.2
        (by omega)
      rw [nodesOf, List.append_assoc, List.length_cons, readMembers, hhead]
      show (readMembers (readNode levels) ks.length (nodesOf ks ++ rest)
        >>= fun x => pure (k :: x.1, x.2)) = _
      rw [htail]
      rfl

end

-- ================================================ what is read was written

/-- What a reader of one key must satisfy for its number of levels: it reads
the nodes of a key that may exist and is no higher. -/
def ReadsWithin (levels : Nat)
    (read : List KeyToken → Except KeyError (Key × List KeyToken)) : Prop :=
  ∀ nodes k rest, KeyToken.LeavesValid nodes → read nodes = .ok (k, rest) →
    nodes = k.nodes ++ rest ∧ k.WellFormed ∧ k.Countable ∧ k.depth ≤ levels

/-- A reader of one key reads several as it reads one. -/
theorem nodesOf_of_readMembers {levels : Nat}
    {read : List KeyToken → Except KeyError (Key × List KeyToken)}
    (hread : ReadsWithin levels read) :
    ∀ (n : Nat) (nodes : List KeyToken) (ks : List Key) (rest : List KeyToken),
      KeyToken.LeavesValid nodes → readMembers read n nodes = .ok (ks, rest) →
      nodes = nodesOf ks ++ rest ∧ ks.length = n ∧ AllWellFormed ks
        ∧ AllCountable ks ∧ maxDepth ks ≤ levels := by
  intro n
  induction n with
  | zero =>
      intro nodes ks rest _ h
      cases h
      exact ⟨rfl, rfl, True.intro, True.intro, Nat.zero_le _⟩
  | succ n ih =>
      intro nodes ks rest hleaves h
      unfold readMembers at h
      obtain ⟨⟨k, middle⟩, hhead, h⟩ := bind_eq_ok.1 h
      obtain ⟨⟨ks', rest'⟩, htail, h⟩ := bind_eq_ok.1 h
      cases pure_eq_ok.1 h
      obtain ⟨rfl, hwf, hcount, hdepth⟩ := hread _ _ _ hleaves hhead
      obtain ⟨rfl, hlength, hwfs, hcounts, hdepths⟩ :=
        ih _ _ _ hleaves.of_append htail
      refine ⟨?_, ?_, ⟨hwf, hwfs⟩, ⟨hcount, hcounts⟩, ?_⟩
      · rw [nodesOf, List.append_assoc]
      · rw [List.length_cons, hlength]
      · exact Nat.max_le.2 ⟨hdepth, hdepths⟩

/-- The members that a composite node asks for are as many as it says, and
what was read for them are their nodes. -/
theorem members_of_readMembers {levels : Nat}
    (hread : ReadsWithin levels (readNode levels)) {t : KeyToken}
    {children : UInt32} {nodes behind : List KeyToken} {members : List Key}
    (hleaves : KeyToken.LeavesValid (t :: nodes))
    (h : readMembers (readNode levels) children.toNat nodes
      = .ok (members, behind)) :
    nodes = nodesOf members ++ behind ∧ KeyToken.count members.length = children
      ∧ members.length < UInt32.size ∧ AllWellFormed members
      ∧ AllCountable members ∧ maxDepth members ≤ levels := by
  have hbehind : KeyToken.LeavesValid nodes :=
    fun l hl => hleaves l (List.mem_cons_of_mem _ hl)
  obtain ⟨hnodes, hlength, hmembers⟩ :=
    nodesOf_of_readMembers hread _ _ _ _ hbehind h
  refine ⟨hnodes, ?_, ?_, hmembers⟩
  · rw [hlength, KeyToken.count_toNat]
  · rw [hlength]
    exact children.toNat_lt

/-- What is read at a number of levels is a key that may exist, no higher than
that, and what was read are its nodes. -/
theorem nodes_of_readNode (levels : Nat) :
    ReadsWithin levels (readNode levels) := by
  induction levels with
  | zero =>
      intro nodes k rest _ h
      cases h
  | succ levels ih =>
      intro nodes k rest hleaves h
      match nodes, h with
      | [], h => cases h
      | .leaf l :: nodes, h =>
          cases h
          have hvalid : l.Valid := hleaves l List.mem_cons_self
          exact ⟨rfl, hvalid, True.intro, Nat.succ_le_succ (Nat.zero_le _)⟩
      | .list children :: nodes, h =>
          obtain ⟨⟨members, behind⟩, hmembers, h⟩ := bind_eq_ok.1 h
          obtain ⟨made, hmake, h⟩ := bind_eq_ok.1 h
          cases pure_eq_ok.1 h
          obtain ⟨hnil, -, rfl⟩ := makeList_eq_ok.1 hmake
          obtain ⟨rfl, hcount, hfits, hwf, hcountable, hdepth⟩ :=
            members_of_readMembers ih hleaves hmembers
          refine ⟨?_, ⟨hnil, hwf⟩, ⟨hfits, hcountable⟩, ?_⟩
          · rw [Key.nodes, hcount]
            rfl
          · rw [depth]
            omega
      | .threshold required children :: nodes, h =>
          obtain ⟨⟨members, behind⟩, hmembers, h⟩ := bind_eq_ok.1 h
          obtain ⟨made, hmake, h⟩ := bind_eq_ok.1 h
          cases pure_eq_ok.1 h
          obtain ⟨hnil, -, hlow, hhigh, rfl⟩ := makeThreshold_eq_ok.1 hmake
          obtain ⟨rfl, hcount, hfits, hwf, hcountable, hdepth⟩ :=
            members_of_readMembers ih hleaves hmembers
          refine ⟨?_, ⟨hnil, hlow, hhigh, hwf⟩, ⟨hfits, hcountable⟩, ?_⟩
          · rw [Key.nodes, hcount]
            rfl
          · rw [depth]
            omega

-- ============================================================= whole arrays

/-- The nodes of a key that may exist are read as that key. -/
theorem ofNodes_nodes {k : Key} (hvalid : k.Valid) (hcount : k.Countable) :
    ofNodes k.nodes = .ok k := by
  have hread := readNode_nodes_append (Nat.le_refl _) [] k hvalid.1 hcount
    hvalid.2
  rw [List.append_nil] at hread
  unfold ofNodes
  rw [hread]
  rfl

/-- A key that is read may exist, and it was read from its nodes. -/
theorem nodes_of_ofNodes {nodes : List KeyToken} {k : Key}
    (hleaves : KeyToken.LeavesValid nodes) (h : ofNodes nodes = .ok k) :
    k.Valid ∧ k.Countable ∧ k.nodes = nodes := by
  obtain ⟨⟨made, rest⟩, hread, h⟩ := bind_eq_ok.1 h
  dsimp only at h
  by_cases hrest : rest = []
  · rw [if_pos hrest] at h
    cases pure_eq_ok.1 h
    obtain ⟨rfl, hwf, hcount, hdepth⟩ :=
      nodes_of_readNode maxKeyDepth _ _ _ hleaves hread
    refine ⟨⟨hwf, hdepth⟩, hcount, ?_⟩
    rw [hrest, List.append_nil]
  · rw [if_neg hrest] at h
    cases h

/-- The written form of keys is a bijection onto the keys that may exist. The
nodes of such a key are read as the key; what is read as a key are the nodes
of that key, which may exist. So exactly what is written is read, and no two
arrays of nodes are read as one key. -/
theorem ofNodes_bijective :
    (∀ k : Key, k.Valid → k.Countable → ofNodes k.nodes = .ok k)
      ∧ (∀ (nodes : List KeyToken) (k : Key), KeyToken.LeavesValid nodes →
        ofNodes nodes = .ok k → k.Valid ∧ k.nodes = nodes)
      ∧ (∀ nodes : List KeyToken, KeyToken.LeavesValid nodes →
        ((∃ k, ofNodes nodes = .ok k)
          ↔ ∃ k : Key, k.Valid ∧ k.Countable ∧ k.nodes = nodes))
      ∧ ∀ (nodes nodes' : List KeyToken) (k : Key),
        KeyToken.LeavesValid nodes → KeyToken.LeavesValid nodes' →
        ofNodes nodes = .ok k → ofNodes nodes' = .ok k → nodes = nodes' := by
  refine ⟨fun k => ofNodes_nodes, fun nodes k hleaves h => ?_,
    fun nodes hleaves => ⟨?_, ?_⟩, fun nodes nodes' k hleaves hleaves' h h' => ?_⟩
  · obtain ⟨hvalid, -, heq⟩ := nodes_of_ofNodes hleaves h
    exact ⟨hvalid, heq⟩
  · rintro ⟨k, h⟩
    exact ⟨k, nodes_of_ofNodes hleaves h⟩
  · rintro ⟨k, hvalid, hcount, rfl⟩
    exact ⟨k, ofNodes_nodes hvalid hcount⟩
  · rw [← (nodes_of_ofNodes hleaves h).2.2, (nodes_of_ofNodes hleaves' h').2.2]

-- ======================================================== a nested threshold

/-- One of two holders, the second a list of its own. -/
def eitherHolder : Key :=
  .threshold 1 [.leaf (.ed25519 [1]), .list [.leaf (.ed25519 [2])]]

/-- The nodes of a nested threshold are read as the threshold, and where one
is missing nothing is read. -/
theorem ofNodes_bijective_threshold :
    eitherHolder.Valid ∧ eitherHolder.Countable
      ∧ eitherHolder.nodes = [.threshold 1 2, .leaf (.ed25519 [1]), .list 1,
        .leaf (.ed25519 [2])]
      ∧ ofNodes eitherHolder.nodes = .ok eitherHolder
      ∧ ofNodes (eitherHolder.nodes.take 3) = .error .truncated := by
  have hvalid : eitherHolder.Valid := by
    simp [eitherHolder, Valid, WellFormed, AllWellFormed, depth, maxDepth,
      maxKeyDepth, LeafKey.ed25519]
  have hcount : eitherHolder.Countable := by
    simp [eitherHolder, Countable, AllCountable, UInt32.size]
  refine ⟨hvalid, hcount, rfl, ?_, rfl⟩
  exact ofNodes_bijective.1 eitherHolder hvalid hcount

end Key

end SigningOrder
