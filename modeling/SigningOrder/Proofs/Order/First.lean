/-
First occurrences. Deduplication walks an order with the identities that it
has seen, and keeps a key if its identity is not among them. What it is meant
to keep is said without a walk, by comparing entries with each other: those
that no earlier entry is the same as (`firsts`). `dedup_eq_firsts` is that the
two are one, and the laws of deduplication are then those of `firsts`.

`firsts` is stated for any relation, by places in the list. Its one structural
law is `firsts_cons`: the first entry stays, and of the first occurrences
among the others those stay that it is not the same as. Everything else is an
induction by that law. A part of a list may be taken before or after, if the
relation does not lead out of it (`filter_firsts`), and of two lists the second
keeps what the first has nothing the same as (`firsts_append`).

The walk needs the induction from any list of seen identities: it keeps the
first occurrences whose identity is not among them (`dedupFrom_eq`).
-/
import SigningOrder.Proofs.Key.Canonical
import SigningOrder.Proofs.Order.Dedup

namespace SigningOrder

-- ======================================================== first occurrences

section

variable {α : Type} (same : α → α → Bool)

/-- The entries of a list that no earlier entry is the same as, each with its
place in the list. -/
def firstPlaces (as : List α) : List (α × Nat) :=
  as.zipIdx.filter fun p => (as.take p.2).all fun a => !same a p.1

/-- The entries of a list that no earlier entry is the same as. -/
def firsts (as : List α) : List α :=
  (firstPlaces same as).map Prod.fst

theorem firsts_sublist (as : List α) : (firsts same as).Sublist as := by
  have hplaces : ((firstPlaces same as).map Prod.fst).Sublist
      (as.zipIdx.map Prod.fst) := List.filter_sublist.map Prod.fst
  rwa [List.zipIdx_map_fst] at hplaces

/-- The first entry stays, and of the others those that stay among themselves
and that it is not the same as. -/
theorem firsts_cons (a : α) (as : List α) :
    firsts same (a :: as) = a :: (firsts same as).filter (!same a ·) := by
  have hshift : as.zipIdx 1 = as.zipIdx.map fun p => (p.1, p.2 + 1) :=
    List.zipIdx_succ
  unfold firsts firstPlaces
  rw [List.zipIdx_cons, Nat.zero_add, hshift, List.filter_cons_of_pos (by simp),
    List.map_cons, List.filter_map, List.map_map, List.filter_map,
    List.filter_filter]
  rfl

/-- Of two lists, the second keeps what no entry of the first is the same as. -/
theorem firsts_append (as bs : List α) :
    firsts same (as ++ bs)
      = firsts same as
        ++ (firsts same bs).filter fun b => as.all fun a => !same a b := by
  induction as with
  | nil => exact (List.filter_eq_self.2 fun _ _ => rfl).symm
  | cons a as ih =>
      rw [List.cons_append, firsts_cons, firsts_cons, ih, List.filter_append,
        List.filter_filter, List.cons_append]
      simp only [List.all_cons]

/-- What is compared by what it is made of may be made before or after. -/
theorem firsts_map {β : Type} {same' : β → β → Bool} {f : α → β}
    (hf : ∀ a b, same' (f a) (f b) = same a b) (as : List α) :
    firsts same' (as.map f) = (firsts same as).map f := by
  induction as with
  | nil => rfl
  | cons a as ih =>
      rw [List.map_cons, firsts_cons, firsts_cons, ih, List.map_cons,
        List.filter_map]
      simp only [Function.comp_def, hf]

theorem pairwise_firsts (as : List α) :
    (firsts same as).Pairwise fun a b => same a b = false := by
  induction as with
  | nil => exact List.Pairwise.nil
  | cons a as ih =>
      rw [firsts_cons, List.pairwise_cons]
      refine ⟨fun b hb => ?_, ih.filter _⟩
      simpa using (List.mem_filter.1 hb).2

/-- A part of a list that the relation does not lead out of may be taken
before or after. -/
theorem filter_firsts {p : α → Bool} (hp : ∀ a b, same a b = true → p a = p b)
    (as : List α) :
    (firsts same as).filter p = firsts same (as.filter p) := by
  induction as with
  | nil => rfl
  | cons a as ih =>
      rw [firsts_cons]
      by_cases ha : p a = true
      · rw [List.filter_cons_of_pos ha, List.filter_cons_of_pos ha, firsts_cons,
          ← ih, List.filter_filter, List.filter_filter]
        simp only [Bool.and_comm]
      · rw [List.filter_cons_of_neg ha, List.filter_cons_of_neg ha, ← ih,
          List.filter_filter]
        refine List.filter_congr fun b _ => ?_
        cases hpb : p b with
        | false => rfl
        | true =>
            -- an entry of the part is not the same as one outside of it
            have hsame : same a b = false := Bool.eq_false_iff.2 fun hsame =>
              ha ((hp a b hsame).trans hpb)
            rw [hsame]
            rfl

/-- Where the relation is an equivalence, each entry is the same as one that
stays and stands no later. -/
theorem exists_firstPlace (hsame : Equivalence fun a b => same a b = true)
    {as : List α} {i : Nat} {a : α} (h : as[i]? = some a) :
    ∃ p ∈ firstPlaces same as, p.2 ≤ i ∧ same p.1 a = true := by
  induction i using Nat.strongRecOn generalizing a with
  | _ i ih =>
      by_cases hearlier : ∃ b ∈ as.take i, same b a = true
      · -- the first occurrence of an earlier entry is one of this entry, too
        obtain ⟨b, hb, hba⟩ := hearlier
        obtain ⟨j, hj⟩ := List.getElem?_of_mem hb
        rw [List.getElem?_take] at hj
        split at hj
        · next hji =>
            obtain ⟨p, hp, hle, hpb⟩ := ih j hji hj
            exact ⟨p, hp, by omega, hsame.trans hpb hba⟩
        · cases hj
      · have hfirst : ((as.take i).all fun b => !same b a) = true := by
          simpa using hearlier
        have hplace : (a, i) ∈ as.zipIdx := by
          rw [List.mem_zipIdx_iff_getElem?]
          exact h
        exact ⟨_, List.mem_filter.2 ⟨hplace, hfirst⟩, Nat.le_refl i,
          hsame.refl a⟩

/-- Up to the relation, nothing is lost. -/
theorem exists_mem_firsts (hsame : Equivalence fun a b => same a b = true)
    {as : List α} {a : α} (h : a ∈ as) :
    ∃ b ∈ firsts same as, same b a = true := by
  obtain ⟨i, hi⟩ := List.getElem?_of_mem h
  obtain ⟨p, hp, -, hpa⟩ := exists_firstPlace same hsame hi
  exact ⟨p.1, List.mem_map_of_mem hp, hpa⟩

end

-- ============================================================ deduplication

theorem Key.sameKey_equivalence :
    Equivalence fun a b : Key => a.sameKey b = true := by
  simp only [sameKey_iff]
  exact ⟨fun _ => rfl, Eq.symm, Eq.trans⟩

namespace OrderedKey

/-- Whether two keys of an order are one key, up to decodability, that signs
for one transaction. -/
def same (a b : OrderedKey) : Bool :=
  a.scope = b.scope ∧ a.key.sameKey b.key = true

theorem same_iff {a b : OrderedKey} :
    a.same b = true ↔ a.identity = b.identity := by
  unfold same identity
  rw [decide_eq_true_iff, Prod.mk.injEq, Key.sameKey_iff]

theorem same_equivalence :
    Equivalence fun a b : OrderedKey => a.same b = true := by
  simp only [same_iff]
  exact ⟨fun _ => rfl, Eq.symm, Eq.trans⟩

/-- The walk keeps the first occurrences that were not seen before it. -/
theorem dedupFrom_eq (seen : List (Scope × Key)) (keys : List OrderedKey) :
    dedupFrom seen keys
      = (firsts same keys).filter fun o => o.identity ∉ seen := by
  induction keys generalizing seen with
  | nil => rfl
  | cons o rest ih =>
      rw [firsts_cons]
      by_cases ho : o.identity ∈ seen
      · rw [dedupFrom_of_mem ho, ih, List.filter_cons_of_neg (by simpa using ho),
          List.filter_filter]
        refine List.filter_congr fun a _ => ?_
        cases hsame : o.same a with
        | false => simp
        | true => simp [← same_iff.1 hsame, ho]
      · rw [dedupFrom_of_not_mem ho, ih,
          List.filter_cons_of_pos (by simpa using ho),
          List.filter_filter]
        congr 1
        refine List.filter_congr fun a _ => ?_
        have hmem : a.identity ∈ o.identity :: seen
            ↔ o.same a = true ∨ a.identity ∈ seen := by
          rw [List.mem_cons, same_iff, eq_comm]
        simp only [hmem]
        cases o.same a <;> simp

theorem dedup_eq_firsts (keys : List OrderedKey) :
    dedup keys = firsts same keys := by
  unfold dedup
  rw [dedupFrom_eq]
  simp

/-- Deduplication keeps exactly the first occurrences, as they are:

- the result is the sublist of the entries that no earlier entry is the same
  as, where being the same takes one scope and keys that decode to the same;
- no two results are the same;
- every entry is the same as a result that stands at its place or before it;
- the results of a scope are those of the entries of that scope alone;
- a second deduplication drops nothing;
- what is put behind other entries may be deduplicated first. -/
theorem dedup_keeps_firsts (keys : List OrderedKey) :
    dedup keys = firsts same keys
      ∧ (dedup keys).Sublist keys
      ∧ ((dedup keys).Pairwise fun a b => a.same b = false)
      ∧ (∀ (i : Nat) (o : OrderedKey), keys[i]? = some o →
        ∃ p ∈ firstPlaces same keys, p.2 ≤ i ∧ p.1.same o = true)
      ∧ (∀ scope : Scope, (dedup keys).filter (·.scope = scope)
        = dedup (keys.filter (·.scope = scope)))
      ∧ dedup (dedup keys) = dedup keys
      ∧ ∀ back : List OrderedKey,
        dedup (keys ++ back) = dedup (keys ++ dedup back) := by
  refine ⟨dedup_eq_firsts keys, ?_, ?_,
    fun i o => exists_firstPlace same same_equivalence, fun scope => ?_, ?_,
    fun back => (dedup_append_dedup keys back).symm⟩
  · rw [dedup_eq_firsts]
    exact firsts_sublist same keys
  · rw [dedup_eq_firsts]
    exact pairwise_firsts same keys
  · rw [dedup_eq_firsts, dedup_eq_firsts]
    refine filter_firsts same (fun a b hsame => ?_) keys
    have hscope : a.scope = b.scope := congrArg Prod.fst (same_iff.1 hsame)
    rw [hscope]
  · exact dedup_append_dedup [] keys

-- ============================================ one key in forms and in scopes

/-- A key that signs for both transactions; for the second it comes back in
another form, and for the first under another rule. -/
def repeated : List OrderedKey :=
  [outer (.leaf Key.plainKey),
    ⟨.leaf Key.wrappedKey, .scheduled, .standard⟩,
    ⟨.leaf Key.wrappedKey, .outer, .topLevelFile ⟨[.leaf Key.plainKey]⟩⟩,
    ⟨.leaf Key.plainKey, .scheduled, .standard⟩]

/-- Each transaction keeps the key in the form and under the rule in which it
came first, and the fourth entry is covered by the second. -/
theorem dedup_keeps_firsts_repeated :
    dedup repeated = [outer (.leaf Key.plainKey),
        ⟨.leaf Key.wrappedKey, .scheduled, .standard⟩]
      ∧ repeated[3]? = some ⟨.leaf Key.plainKey, .scheduled, .standard⟩
      ∧ ∃ p ∈ firstPlaces same repeated,
        p.2 ≤ 3
          ∧ p.1.same ⟨.leaf Key.plainKey, .scheduled, .standard⟩ = true := by
  obtain ⟨hfirsts, -, -, hcovered, -⟩ := dedup_keeps_firsts repeated
  refine ⟨?_, rfl, hcovered 3 _ rfl⟩
  rw [hfirsts]
  decide

end OrderedKey

end SigningOrder
