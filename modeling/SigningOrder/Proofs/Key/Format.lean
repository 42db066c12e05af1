/-
The law of the written forms of keys. Keys are written as lists of nodes, and
`Key.ofNodes` undoes `Key.nodes`, so what is left for the law is that the two
agree on what fits: the nodes of a key fit exactly if the counts of the key
do. Both say that its composites have fewer than 2^32 members and that its
leaves have payloads of fewer than 2^64 bytes (`Key.countsFit_iff`).
-/
import SigningOrder.Key.Format
import SigningOrder.Proofs.Format.Union
import SigningOrder.Proofs.Key.Wire

namespace SigningOrder

/-- A check of a key succeeds in reading where it succeeds by itself. -/
theorem KeyError.asReadError_eq_ok {α : Type} {x : Except KeyError α} {a : α} :
    KeyError.asReadError x = .ok a ↔ x = .ok a := by
  cases x with
  | ok b => rw [asReadError, Except.ok.injEq, Except.ok.injEq]
  | error e => exact ⟨nofun, nofun⟩

-- =================================================================== leaves

/-- Every algorithm is in the list of all. -/
theorem KeyAlgorithm.mem_all (a : KeyAlgorithm) : a ∈ all := by
  cases a <;> decide

instance : KeyAlgorithm.format.Lawful :=
  Format.Lawful.enumeration (by decide)

namespace LeafKey

/-- A leaf is built with a payload, and with no other. -/
theorem make_eq_ok {algorithm : KeyAlgorithm} {bytes : Bytes} {l : LeafKey} :
    make algorithm bytes = .ok l ↔ l.Valid ∧ l = ⟨algorithm, bytes⟩ := by
  unfold make
  by_cases hnil : bytes = []
  · rw [if_pos hnil]
    refine ⟨nofun, ?_⟩
    rintro ⟨hvalid, rfl⟩
    exact absurd hnil hvalid
  · rw [if_neg hnil]
    constructor
    · intro h
      cases h
      exact ⟨hnil, rfl⟩
    · rintro ⟨-, rfl⟩
      rfl

instance : fields.Lawful :=
  inferInstanceAs (Fields.and _ _).Lawful

instance : format.Lawful := by
  refine Format.Lawful.convert ?_ ?_
  · rintro l ⟨hvalid, hlength⟩
    refine ⟨⟨l.algorithm.mem_all, hlength, fun _ _ => True.intro⟩, ?_⟩
    exact KeyError.asReadError_eq_ok.2 (make_eq_ok.2 ⟨hvalid, rfl⟩)
  · rintro ⟨algorithm, bytes⟩ l hfits h
    obtain ⟨hvalid, rfl⟩ := make_eq_ok.1 (KeyError.asReadError_eq_ok.1 h)
    exact ⟨hvalid, hfits.2.1⟩

end LeafKey

-- ==================================================================== nodes

namespace KeyToken

instance : listFields.Lawful :=
  inferInstanceAs (Fields.required _ _).Lawful

instance : thresholdFields.Lawful :=
  inferInstanceAs (Fields.and _ _).Lawful

/-- The cases of a node are lawful. -/
theorem cases_lawful : Case.AllLawful KeyToken.ctorIdx 0 cases := by
  refine ⟨?_, ?_, ?_, True.intro⟩
  all_goals
    refine ⟨inferInstance, fun _ => rfl, fun h => ?_, fun _ => rfl⟩
    dsimp only at h
    split at h <;> cases h
    rfl

instance : format.Lawful :=
  Case.union_lawful cases_lawful (by decide)

/-- A node fits if it is no leaf, or a leaf that fits. -/
theorem fits_iff {t : KeyToken} :
    format.fits t
      ↔ ∀ l, t = .leaf l → l.Valid ∧ l.bytes.length < UInt64.size := by
  cases t with
  | leaf l =>
      refine (Case.union_fits_make cases_lawful (.head _) l).trans ⟨?_, ?_⟩
      · rintro h l' ⟨⟩
        exact h
      · exact fun h => h l rfl
  | list n =>
      refine (Case.union_fits_make cases_lawful (.tail _ (.head _)) n).trans ?_
      exact ⟨fun _ => nofun, fun _ => True.intro⟩
  | threshold required n =>
      refine (Case.union_fits_make cases_lawful
        (.tail _ (.tail _ (.head _))) (required, n)).trans ?_
      exact ⟨fun _ => nofun, fun _ => ⟨True.intro, True.intro⟩⟩

end KeyToken

-- ===================================================================== keys

namespace Key

mutual

/-- The leaves of a key that may exist have payloads. -/
theorem leavesValid_nodes : ∀ k : Key, k.WellFormed → KeyToken.LeavesValid k.nodes
  | .leaf l, h => by
      intro l' hmem
      cases List.mem_singleton.1 hmem
      exact h
  | .list members, h => by
      intro l hmem
      cases hmem with
      | tail _ hmem => exact leavesValid_nodesOf members h.2 l hmem
  | .threshold required members, h => by
      intro l hmem
      cases hmem with
      | tail _ hmem => exact leavesValid_nodesOf members h.2.2.2 l hmem

/-- The leaves of keys that may exist have payloads. -/
theorem leavesValid_nodesOf :
    ∀ ks : List Key, AllWellFormed ks → KeyToken.LeavesValid (nodesOf ks)
  | [], _ => nofun
  | k :: ks, h => by
      intro l hmem
      rcases List.mem_append.1 hmem with hmem | hmem
      · exact leavesValid_nodes k h.1 l hmem
      · exact leavesValid_nodesOf ks h.2 l hmem

end

/-- The payloads of the leaves among the nodes fit. -/
def PayloadsFit (nodes : List KeyToken) : Prop :=
  ∀ l, KeyToken.leaf l ∈ nodes → l.bytes.length < UInt64.size

/-- A composite node holds no payload. -/
theorem payloadsFit_cons {t : KeyToken} (ht : ∀ l, t ≠ .leaf l)
    {nodes : List KeyToken} : PayloadsFit (t :: nodes) ↔ PayloadsFit nodes := by
  refine ⟨fun h l hmem => h l (.tail _ hmem), fun h l hmem => ?_⟩
  cases hmem with
  | head => exact absurd rfl (ht l)
  | tail _ hmem => exact h l hmem

mutual

/-- The counts of a key fit if its composites have few enough members and the
payloads of its leaves fit. -/
theorem countsFit_iff : ∀ k : Key, k.CountsFit ↔ k.Countable ∧ PayloadsFit k.nodes
  | .leaf l => by
      refine ⟨fun h => ⟨True.intro, ?_⟩, fun h => h.2 l (.head _)⟩
      intro l' hmem
      cases List.mem_singleton.1 hmem
      exact h
  | .list members => by
      rw [CountsFit, Countable, nodes, payloadsFit_cons (t := .list _) nofun,
        allCountsFit_iff members, and_assoc]
  | .threshold required members => by
      rw [CountsFit, Countable, nodes,
        payloadsFit_cons (t := .threshold _ _) nofun,
        allCountsFit_iff members, and_assoc]

/-- The counts of keys fit if their composites have few enough members and the
payloads of their leaves fit. -/
theorem allCountsFit_iff :
    ∀ ks : List Key, AllCountsFit ks ↔ AllCountable ks ∧ PayloadsFit (nodesOf ks)
  | [] => ⟨fun _ => ⟨True.intro, nofun⟩, fun _ => True.intro⟩
  | k :: ks => by
      have happend : PayloadsFit (nodesOf (k :: ks))
          ↔ PayloadsFit k.nodes ∧ PayloadsFit (nodesOf ks) := by
        refine ⟨fun h => ⟨fun l hmem => h l (List.mem_append_left _ hmem),
          fun l hmem => h l (List.mem_append_right _ hmem)⟩, ?_⟩
        rintro ⟨hk, hks⟩ l hmem
        exact (List.mem_append.1 hmem).elim (hk l) (hks l)
      rw [AllCountsFit, AllCountable, happend, countsFit_iff k,
        allCountsFit_iff ks, and_and_and_comm]

end

instance : format.Lawful := by
  refine Format.Lawful.convert ?_ ?_
  · rintro k ⟨hvalid, hcounts, hlength⟩
    obtain ⟨hcount, hpayloads⟩ := k.countsFit_iff.1 hcounts
    refine ⟨⟨hlength, fun t ht => KeyToken.fits_iff.2 ?_⟩, ?_⟩
    · rintro l rfl
      exact ⟨leavesValid_nodes k hvalid.1 l ht, hpayloads l ht⟩
    · exact KeyError.asReadError_eq_ok.2 (ofNodes_nodes hvalid hcount)
  · intro nodes k hfits h
    have hleaf : ∀ l, KeyToken.leaf l ∈ nodes →
        l.Valid ∧ l.bytes.length < UInt64.size :=
      fun l hmem => KeyToken.fits_iff.1 (hfits.2 _ hmem) l rfl
    obtain ⟨hvalid, hcount, rfl⟩ := nodes_of_ofNodes
      (fun l hmem => (hleaf l hmem).1) (KeyError.asReadError_eq_ok.1 h)
    refine ⟨hvalid, k.countsFit_iff.2 ⟨hcount, ?_⟩, hfits.1⟩
    exact fun l hmem => (hleaf l hmem).2

end Key

-- ================================================================ key lists

instance : KeyList.format.Lawful := by
  refine Format.Lawful.convert ?_ ?_
  · exact fun l hl => ⟨hl, rfl⟩
  · rintro k l hk h
    cases k with
    | list members =>
        cases h
        exact hk
    | leaf l => cases h
    | threshold required members => cases h

end SigningOrder
