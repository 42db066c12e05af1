/-
What deduplication keeps. `OrderedKey.dedup` walks the keys and drops each
whose identity, its scope and canonical key, was seen before. Every fact
here is first stated of the walk from any list of seen identities
(`dedupFrom`), because that is where the induction goes through, and then
read off for `dedup`:

- the first key always stays (`dedup_cons`);
- nothing new comes in (`mem_of_mem_dedup`) and no identity is lost
  (`identity_mem_dedup`);
- a property of keys that each key passes on to the later ones of its
  identity holds of all keys as soon as it holds of those that stay
  (`forall_mem_of_forall_mem_dedup`);
- keys that are deduplicated among themselves may be put behind others and
  deduplicated with them (`dedup_append_dedup`);
- keys that sign for one transaction and keys that sign for the other do not
  meet (`dedup_append_of_scope_ne`);
- leaving keys out of the middle only leaves identities out of the result,
  when at most one key follows (`dedup_omit_sublist`).
-/
import SigningOrder.Order

namespace SigningOrder

namespace OrderedKey

-- ================================================================ the walk

/-- A key that was seen before is dropped. -/
theorem dedupFrom_of_mem {seen : List (Scope × Key)} {o : OrderedKey}
    (h : o.identity ∈ seen) (rest : List OrderedKey) :
    dedupFrom seen (o :: rest) = dedupFrom seen rest := by
  rw [dedupFrom, if_pos h]

/-- A key that was not seen before stays, and is seen from there on. -/
theorem dedupFrom_of_not_mem {seen : List (Scope × Key)} {o : OrderedKey}
    (h : o.identity ∉ seen) (rest : List OrderedKey) :
    dedupFrom seen (o :: rest)
      = o :: dedupFrom (o.identity :: seen) rest := by
  rw [dedupFrom, if_neg h]

/-- Of the identities that were seen, only those of the keys to come matter. -/
theorem dedupFrom_congr_of_mem {seen seen' : List (Scope × Key)}
    {keys : List OrderedKey}
    (h : ∀ o ∈ keys, o.identity ∈ seen ↔ o.identity ∈ seen') :
    dedupFrom seen keys = dedupFrom seen' keys := by
  induction keys generalizing seen seen' with
  | nil => rfl
  | cons o rest ih =>
      obtain ⟨hhead, htail⟩ := List.forall_mem_cons.1 h
      by_cases ho : o.identity ∈ seen
      · rw [dedupFrom_of_mem ho, dedupFrom_of_mem (hhead.1 ho), ih htail]
      · have ho' : o.identity ∉ seen' := fun hin => ho (hhead.2 hin)
        have hnext : ∀ a ∈ rest,
            a.identity ∈ o.identity :: seen ↔ a.identity ∈ o.identity :: seen' :=
          fun a ha => by rw [List.mem_cons, List.mem_cons, htail a ha]
        rw [dedupFrom_of_not_mem ho, dedupFrom_of_not_mem ho', ih hnext]

/-- Nor does it matter how often they were seen, or in which order. -/
theorem dedupFrom_congr {seen seen' : List (Scope × Key)}
    (h : ∀ i, i ∈ seen ↔ i ∈ seen') (keys : List OrderedKey) :
    dedupFrom seen keys = dedupFrom seen' keys :=
  dedupFrom_congr_of_mem fun o _ => h o.identity

/-- The walk over two lists is the walk over the first, and then over the
second with the identities of the first seen. -/
theorem dedupFrom_append (seen : List (Scope × Key))
    (xs ys : List OrderedKey) :
    dedupFrom seen (xs ++ ys)
      = dedupFrom seen xs ++ dedupFrom (xs.map identity ++ seen) ys := by
  induction xs generalizing seen with
  | nil => rfl
  | cons o rest ih =>
      rw [List.map_cons, List.cons_append]
      by_cases ho : o.identity ∈ seen
      · rw [dedupFrom_of_mem ho, dedupFrom_of_mem ho, ih]
        congr 1
        refine dedupFrom_congr (fun i => ?_) ys
        simp only [List.mem_append, List.mem_cons, List.cons_append]
        grind
      · rw [dedupFrom_of_not_mem ho, dedupFrom_of_not_mem ho, ih,
          List.cons_append]
        congr 2
        refine dedupFrom_congr (fun i => ?_) ys
        simp only [List.mem_append, List.mem_cons, List.cons_append]
        grind

/-- What the walk drops would be dropped later too, by a walk that has seen
as much from the start. -/
theorem dedupFrom_dedupFrom {seen seen' : List (Scope × Key)}
    (h : ∀ i ∈ seen', i ∈ seen) (keys : List OrderedKey) :
    dedupFrom seen (dedupFrom seen' keys) = dedupFrom seen keys := by
  induction keys generalizing seen seen' with
  | nil => rfl
  | cons o rest ih =>
      by_cases ho' : o.identity ∈ seen'
      · rw [dedupFrom_of_mem ho', dedupFrom_of_mem (h _ ho'), ih h]
      · rw [dedupFrom_of_not_mem ho']
        by_cases ho : o.identity ∈ seen
        · have hnext : ∀ i ∈ o.identity :: seen', i ∈ seen :=
            List.forall_mem_cons.2 ⟨ho, h⟩
          rw [dedupFrom_of_mem ho, dedupFrom_of_mem ho, ih hnext]
        · have hnext : ∀ i ∈ o.identity :: seen', i ∈ o.identity :: seen :=
            fun i hi => List.cons_subset_cons _ h hi
          rw [dedupFrom_of_not_mem ho, dedupFrom_of_not_mem ho, ih hnext]

/-- Nothing new comes in. -/
theorem mem_of_mem_dedupFrom {seen : List (Scope × Key)}
    {keys : List OrderedKey} {o : OrderedKey}
    (h : o ∈ dedupFrom seen keys) : o ∈ keys := by
  induction keys generalizing seen with
  | nil => cases h
  | cons a rest ih =>
      by_cases ha : a.identity ∈ seen
      · rw [dedupFrom_of_mem ha] at h
        exact List.mem_cons_of_mem _ (ih h)
      · rw [dedupFrom_of_not_mem ha] at h
        rcases List.mem_cons.1 h with rfl | h
        · exact List.mem_cons_self
        · exact List.mem_cons_of_mem _ (ih h)

/-- An identity that was not seen before is still there after the walk. -/
theorem identity_mem_dedupFrom {seen : List (Scope × Key)}
    {keys : List OrderedKey} {i : Scope × Key}
    (hmem : i ∈ keys.map identity) (hnew : i ∉ seen) :
    i ∈ (dedupFrom seen keys).map identity := by
  induction keys generalizing seen with
  | nil => cases hmem
  | cons a rest ih =>
      rw [List.map_cons, List.mem_cons] at hmem
      by_cases ha : a.identity ∈ seen
      · rw [dedupFrom_of_mem ha]
        rcases hmem with rfl | hmem
        · exact absurd ha hnew
        · exact ih hmem hnew
      · rw [dedupFrom_of_not_mem ha, List.map_cons]
        by_cases hi : i = a.identity
        · rw [hi]
          exact List.mem_cons_self
        · refine List.mem_cons_of_mem _ (ih (hmem.resolve_left hi) ?_)
          rw [List.mem_cons]
          exact fun h => h.elim hi hnew

/-- A property that each key passes on to the later ones of its identity,
and that is known of all keys seen before, holds of every key as soon as it
holds of those that stay. -/
theorem forall_mem_of_forall_mem_dedupFrom {P : OrderedKey → Prop}
    {seen : List (Scope × Key)} {keys : List OrderedKey}
    (hpass : keys.Pairwise fun a b => a.identity = b.identity → P a → P b)
    (hseen : ∀ o ∈ keys, o.identity ∈ seen → P o)
    (h : ∀ o ∈ dedupFrom seen keys, P o) : ∀ o ∈ keys, P o := by
  induction keys generalizing seen with
  | nil => intro o ho; cases ho
  | cons a rest ih =>
      obtain ⟨hhead, htail⟩ := List.pairwise_cons.1 hpass
      have hrest : ∀ o ∈ rest, o.identity ∈ seen → P o :=
        fun o ho => hseen o (List.mem_cons_of_mem _ ho)
      by_cases ha : a.identity ∈ seen
      · rw [dedupFrom_of_mem ha] at h
        have hall := ih htail hrest h
        intro o ho
        rcases List.mem_cons.1 ho with rfl | ho
        · exact hseen _ List.mem_cons_self ha
        · exact hall o ho
      · rw [dedupFrom_of_not_mem ha] at h
        have hPa : P a := h a List.mem_cons_self
        have hnext : ∀ o ∈ rest, o.identity ∈ a.identity :: seen → P o := by
          intro o ho hin
          rcases List.mem_cons.1 hin with heq | hin
          · exact hhead o ho heq.symm hPa
          · exact hrest o ho hin
        have hall := ih htail hnext fun o ho => h o (List.mem_cons_of_mem _ ho)
        intro o ho
        rcases List.mem_cons.1 ho with rfl | ho
        · exact hPa
        · exact hall o ho

-- ============================================================ read off

/-- The first key stays where it is. -/
theorem dedup_cons (o : OrderedKey) (rest : List OrderedKey) :
    dedup (o :: rest) = o :: dedupFrom [o.identity] rest :=
  dedupFrom_of_not_mem List.not_mem_nil rest

/-- Deduplication brings in no key. -/
theorem mem_of_mem_dedup {keys : List OrderedKey} {o : OrderedKey}
    (h : o ∈ dedup keys) : o ∈ keys :=
  mem_of_mem_dedupFrom h

/-- Deduplication loses no identity. -/
theorem identity_mem_dedup {keys : List OrderedKey} {o : OrderedKey}
    (h : o ∈ keys) : o.identity ∈ (dedup keys).map identity :=
  identity_mem_dedupFrom (List.mem_map_of_mem h) List.not_mem_nil

/-- What stays of the first keys stays, whatever comes behind them. -/
theorem dedup_sublist_append (front back : List OrderedKey) :
    (dedup front).Sublist (dedup (front ++ back)) := by
  unfold dedup
  rw [dedupFrom_append]
  exact List.sublist_append_left _ _

/-- Keys may be deduplicated among themselves before they are put behind
others. -/
theorem dedup_append_dedup (front back : List OrderedKey) :
    dedup (front ++ dedup back) = dedup (front ++ back) := by
  unfold dedup
  rw [dedupFrom_append, dedupFrom_append,
    dedupFrom_dedupFrom fun _ hi => absurd hi List.not_mem_nil]

/-- Keys of two transactions are deduplicated apart. -/
theorem dedup_append_of_scope_ne {front back : List OrderedKey}
    (h : ∀ a ∈ front, ∀ b ∈ back, a.scope ≠ b.scope) :
    dedup (front ++ back) = dedup front ++ dedup back := by
  unfold dedup
  rw [dedupFrom_append]
  congr 1
  refine dedupFrom_congr_of_mem fun b hb => ?_
  rw [List.append_nil]
  refine iff_of_false (fun hin => ?_) List.not_mem_nil
  obtain ⟨a, ha, hsame⟩ := List.mem_map.1 hin
  exact h a ha b hb (congrArg Prod.fst hsame)

/-- A property that each key passes on to the later ones of its identity
holds of every key as soon as it holds of those that stay. -/
theorem forall_mem_of_forall_mem_dedup {P : OrderedKey → Prop}
    {keys : List OrderedKey}
    (hpass : keys.Pairwise fun a b => a.identity = b.identity → P a → P b)
    (h : ∀ o ∈ dedup keys, P o) : ∀ o ∈ keys, P o :=
  forall_mem_of_forall_mem_dedupFrom hpass
    (fun _ _ hin => absurd hin List.not_mem_nil) h

/-- Leaving keys out of the middle, with at most one key behind them, only
leaves identities out of what stays. With two keys behind them this would
fail: the first of them could take the place of one that was left out, and
so come to stand before the other. -/
theorem dedup_omit_sublist (front middle : List OrderedKey)
    {back : List OrderedKey} (hback : back.length ≤ 1) :
    ((dedup (front ++ back)).map identity).Sublist
      ((dedup (front ++ middle ++ back)).map identity) := by
  unfold dedup
  rw [dedupFrom_append, List.append_assoc, dedupFrom_append,
    dedupFrom_append, List.map_append, List.map_append, List.map_append]
  refine List.Sublist.append (List.Sublist.refl _) ?_
  match back, hback with
  | [], _ => exact List.nil_sublist _
  | [o], _ =>
      by_cases hfront : o.identity ∈ front.map identity ++ []
      · rw [dedupFrom_of_mem hfront]
        exact List.nil_sublist _
      · rw [dedupFrom_of_not_mem hfront]
        refine List.singleton_sublist.2 ?_
        rw [← List.map_append, ← dedupFrom_append]
        exact identity_mem_dedupFrom (by simp) hfront

end OrderedKey

end SigningOrder
