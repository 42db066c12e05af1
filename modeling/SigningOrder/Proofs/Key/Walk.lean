/-
The reader of nodes, on any array. The nodes come from outside: their counts
promise anything and have nothing to do with how many nodes there are. The
reader `ofNodes` is handed the nodes that are left, which hides where it
stands; `walk` goes over the array with a cursor, counts its depth from the
top, and keeps a record of what it does. It is the same reader
(`ofNodes_eq_finish`), and nothing it does is out of bounds.

A walk that fails stops there. So what holds of the steps of two walks holds
of one behind the other (`Walk.Safe.bind`), and the law of the reader has a
case for each step:

- each node that is taken is the one at the cursor, which moves on by one, and
  the walk asks for no other; the places are counted off one by one whatever
  the counts say, and there is one question more than nodes at most;
- a node is taken no deeper than a key may be high, since what is asked for
  one level deeper is refused;
- what is read at a depth is so much less high, so the members of a composite
  always leave room for its level, and the second test for the height, that
  of the checked constructors, never fires.
-/
import SigningOrder.Proofs.Key.Wire

namespace SigningOrder

-- ===================================================== statement vocabulary

/-- A step of a walk over an array. -/
inductive WalkStep where
  /-- A node is asked for at a depth, with the cursor at a place. -/
  | ask (depth cursor : Nat)
  /-- The node at the cursor is taken. -/
  | take (depth cursor : Nat)
  /-- A composite is built of members, all of which have been read. -/
  | build (members : List Key)

namespace WalkStep

/-- The place at which a node is asked for. -/
def asked? : WalkStep → Option Nat
  | ask _ cursor => some cursor
  | take _ _ => none
  | build _ => none

/-- The place of a node that is taken. -/
def taken? : WalkStep → Option Nat
  | ask _ _ => none
  | take _ cursor => some cursor
  | build _ => none

end WalkStep

/-- What a walk has come to: its outcome, where the cursor stands, and the
steps that led there. -/
structure Walked (α : Type) where
  outcome : Except KeyError α
  cursor : Nat
  steps : List WalkStep

/-- A walk, from where the cursor stands. -/
def Walk (α : Type) : Type :=
  Nat → Walked α

instance : Monad Walk where
  pure a := fun cursor => ⟨.ok a, cursor, []⟩
  bind w next := fun cursor =>
    let r := w cursor
    match r.outcome with
    | .error e => ⟨.error e, r.cursor, r.steps⟩
    | .ok a =>
      let s := next a r.cursor
      ⟨s.outcome, s.cursor, r.steps ++ s.steps⟩

namespace Walked

variable {α : Type}

/-- The outcome for a whole array of so many nodes: none may be left. -/
def finish (r : Walked Key) (total : Nat) : Except KeyError Key := do
  let k ← r.outcome
  let count := total - r.cursor
  if count = 0 then return k else throw (.trailingNodes count)

end Walked

namespace Walk

variable {α : Type}

/-- A node is asked for where none may be. -/
def refuse (depth : Nat) : Walk α := fun cursor =>
  ⟨.error .tooDeep, cursor, [.ask depth cursor]⟩

/-- Takes the node at the cursor, if the array goes as far. -/
def take (nodes : List KeyToken) (depth : Nat) : Walk KeyToken := fun cursor =>
  match nodes[cursor]? with
  | none => ⟨.error .truncated, cursor, [.ask depth cursor]⟩
  | some t => ⟨.ok t, cursor + 1, [.ask depth cursor, .take depth cursor]⟩

/-- Builds a composite with a checked constructor. -/
def build (make : List Key → Except KeyError Key) (members : List Key) :
    Walk Key := fun cursor =>
  ⟨make members, cursor, [.build members]⟩

/-- Walks a number of times, left to right. -/
def times (w : Walk Key) : Nat → Walk (List Key)
  | 0 => pure []
  | n + 1 => do
    let k ← w
    let ks ← times w n
    return k :: ks

end Walk

namespace Key

/-- Reads on behind a node that was taken, where so many members can be read. -/
def walkOn (members : UInt32 → Walk (List Key)) : KeyToken → Walk Key
  | .leaf l => pure (leaf l)
  | .list children => members children >>= Walk.build makeList
  | .threshold required children =>
    members children >>= Walk.build (makeThreshold required)

/-- Reads the key at the cursor, at a depth that is counted from the top. The
test for the depth is what ends the recursion. -/
def walkNode (nodes : List KeyToken) (depth : Nat) : Walk Key :=
  if depth ≤ maxKeyDepth then
    Walk.take nodes depth >>=
      walkOn fun children =>
        Walk.times (walkNode nodes (depth + 1)) children.toNat
  else Walk.refuse depth
termination_by maxKeyDepth + 1 - depth

/-- The walk over a whole array. -/
def walk (nodes : List KeyToken) : Walked Key :=
  walkNode nodes 1 0

end Key

namespace Walk

variable {α β : Type} {w : Walk α} {next : α → Walk β} {cursor place : Nat}
  {steps : List WalkStep}

theorem bind_of_error {e : KeyError} (h : w cursor = ⟨.error e, place, steps⟩) :
    (w >>= next) cursor = ⟨.error e, place, steps⟩ := by
  simp only [bind, h]

theorem bind_of_ok {a : α} (h : w cursor = ⟨.ok a, place, steps⟩) :
    (w >>= next) cursor = ⟨(next a place).outcome, (next a place).cursor,
      steps ++ (next a place).steps⟩ := by
  simp only [bind, h]

theorem take_eq_none {nodes : List KeyToken} {depth : Nat}
    (h : nodes[cursor]? = none) :
    take nodes depth cursor
      = ⟨.error .truncated, cursor, [.ask depth cursor]⟩ := by
  rw [take, h]

theorem take_eq_some {nodes : List KeyToken} {depth : Nat} {t : KeyToken}
    (h : nodes[cursor]? = some t) :
    take nodes depth cursor
      = ⟨.ok t, cursor + 1, [.ask depth cursor, .take depth cursor]⟩ := by
  rw [take, h]

-- ============================================================ the same reader

/-- A walk reads what a reader of the nodes that are left reads. -/
def Reads (nodes : List KeyToken) (w : Walk α)
    (read : List KeyToken → Except KeyError (α × List KeyToken)) : Prop :=
  ∀ cursor, read (nodes.drop cursor)
    = (w cursor).outcome.map fun a => (a, nodes.drop (w cursor).cursor)

variable {nodes : List KeyToken}

theorem Reads.bind {read : List KeyToken → Except KeyError (α × List KeyToken)}
    {readNext : α → List KeyToken → Except KeyError (β × List KeyToken)}
    (hw : w.Reads nodes read) (hnext : ∀ a, (next a).Reads nodes (readNext a)) :
    (w >>= next).Reads nodes fun rest =>
      read rest >>= fun x => readNext x.1 x.2 := by
  intro cursor
  have hread := hw cursor
  dsimp only
  match hwalked : w cursor with
  | ⟨.error e, place, steps⟩ =>
      rw [hwalked] at hread
      rw [bind_of_error hwalked, hread]
      rfl
  | ⟨.ok a, place, steps⟩ =>
      rw [hwalked] at hread
      rw [bind_of_ok hwalked, hread]
      exact hnext a place

theorem reads_pure (a : α) :
    (pure a : Walk α).Reads nodes fun rest => pure (a, rest) :=
  fun _ => rfl

theorem reads_build (make : List Key → Except KeyError Key)
    (members : List Key) :
    (build make members).Reads nodes fun rest =>
      make members >>= fun k => pure (k, rest) := by
  intro cursor
  unfold build
  cases make members <;> rfl

theorem reads_times {w : Walk Key}
    {read : List KeyToken → Except KeyError (Key × List KeyToken)}
    (hw : w.Reads nodes read) (n : Nat) :
    (w.times n).Reads nodes (Key.readMembers read n) := by
  induction n with
  | zero => exact reads_pure []
  | succ n ih =>
      exact hw.bind fun k => ih.bind fun ks => reads_pure (k :: ks)

end Walk

namespace Key

/-- The walk at a depth reads as the reader does with the levels that are
left. -/
theorem reads_walkNode {nodes : List KeyToken} {levels depth : Nat}
    (h : depth + levels = maxKeyDepth + 1) :
    (walkNode nodes depth).Reads nodes (readNode levels) := by
  induction levels generalizing depth with
  | zero =>
      intro cursor
      rw [walkNode, if_neg (by omega)]
      rfl
  | succ levels ih =>
      have hmembers : ∀ n, (Walk.times (walkNode nodes (depth + 1)) n).Reads nodes
          (readMembers (readNode levels) n) :=
        Walk.reads_times (ih (by omega))
      intro cursor
      rw [walkNode, if_pos (by omega)]
      cases hnode : nodes[cursor]? with
      | none =>
          have hend : nodes.drop cursor = [] :=
            List.drop_eq_nil_of_le (List.getElem?_eq_none_iff.1 hnode)
          rw [Walk.bind_of_error (Walk.take_eq_none hnode), hend]
          rfl
      | some t =>
          obtain ⟨hlt, rfl⟩ := List.getElem?_eq_some_iff.1 hnode
          rw [Walk.bind_of_ok (Walk.take_eq_some hnode),
            List.drop_eq_getElem_cons hlt]
          cases nodes[cursor] with
          | leaf l => rfl
          | list children =>
              exact (hmembers children.toNat).bind (Walk.reads_build makeList)
                (cursor + 1)
          | threshold required children =>
              exact (hmembers children.toNat).bind
                (Walk.reads_build (makeThreshold required)) (cursor + 1)

/-- The walk over an array is the reader of its nodes. -/
theorem ofNodes_eq_finish (nodes : List KeyToken) :
    ofNodes nodes = (walk nodes).finish nodes.length := by
  have hread : readNode maxKeyDepth nodes = (walk nodes).outcome.map
      fun k => (k, nodes.drop (walk nodes).cursor) :=
    reads_walkNode (Nat.add_comm 1 maxKeyDepth) 0
  unfold ofNodes Walked.finish
  rw [hread]
  cases (walk nodes).outcome with
  | error e => rfl
  | ok k =>
      have hrest : nodes.drop (walk nodes).cursor = []
          ↔ nodes.length - (walk nodes).cursor = 0 := by
        rw [List.drop_eq_nil_iff, Nat.sub_eq_zero_iff_le]
      show (if nodes.drop (walk nodes).cursor = [] then _ else _) = _
      simp only [hrest, List.length_drop]
      rfl

end Key

-- =================================================================== trails

/-- The steps that a walk over an array may take from one place to another,
and why it stopped there if it did. A node is asked for where the cursor
stands; unless that is too deep or at the end, it is taken, and the cursor
moves on by one. -/
inductive Trail (nodes : List KeyToken) :
    Nat → List WalkStep → Nat → Option KeyError → Prop where
  | done {p : Nat} : Trail nodes p [] p none
  | take {p q depth : Nat} {steps : List WalkStep} {stop : Option KeyError}
      (hdepth : depth ≤ Key.maxKeyDepth) (hplace : p < nodes.length)
      (hrest : Trail nodes (p + 1) steps q stop) :
      Trail nodes p (.ask depth p :: .take depth p :: steps) q stop
  | build {p q : Nat} {members : List Key} {steps : List WalkStep}
      {stop : Option KeyError} (hroom : KeyList.make members ≠ .error .tooDeep)
      (hrest : Trail nodes p steps q stop) :
      Trail nodes p (.build members :: steps) q stop
  -- the ways to stop
  | deep {p : Nat} :
      Trail nodes p [.ask (Key.maxKeyDepth + 1) p] p (some .tooDeep)
  | ended {depth : Nat} (hdepth : depth ≤ Key.maxKeyDepth) :
      Trail nodes nodes.length [.ask depth nodes.length] nodes.length
        (some .truncated)
  | unbuilt {p : Nat} {members : List Key} {e : KeyError}
      (hroom : KeyList.make members ≠ .error .tooDeep) (he : e ≠ .tooDeep) :
      Trail nodes p [.build members] p (some e)

namespace Trail

variable {nodes : List KeyToken} {p q r : Nat} {steps rest : List WalkStep}
  {stop : Option KeyError}

/-- A trail that has not stopped goes on. -/
theorem append (h : Trail nodes p steps q none)
    (hrest : Trail nodes q rest r stop) :
    Trail nodes p (steps ++ rest) r stop := by
  generalize hgoes : (none : Option KeyError) = goes at h
  induction h with
  | done => exact hrest
  | take hdepth hplace _ ih => exact .take hdepth hplace (ih hrest hgoes)
  | build hroom _ ih => exact .build hroom (ih hrest hgoes)
  | deep => cases hgoes
  | ended _ => cases hgoes
  | unbuilt _ _ => cases hgoes

theorem forward (h : Trail nodes p steps q stop) : p ≤ q := by
  induction h with
  | take _ _ _ ih => exact Nat.le_of_succ_le ih
  | build _ _ ih => exact ih
  | _ => exact Nat.le_refl _

theorem within (h : Trail nodes p steps q stop) (hp : p ≤ nodes.length) :
    q ≤ nodes.length := by
  induction h with
  | take _ hplace _ ih => exact ih hplace
  | build _ _ ih => exact ih hp
  | _ => exact hp

/-- The nodes that are taken are those that the cursor passes, in order. -/
theorem taken_eq (h : Trail nodes p steps q stop) :
    steps.filterMap WalkStep.taken? = List.range' p (q - p) := by
  induction h with
  | @take p q _ _ _ _ _ hrest ih =>
      have hcount : q - p = q - (p + 1) + 1 := by
        have hforward := hrest.forward
        omega
      rw [hcount, List.range'_succ, ← ih]
      rfl
  | build _ _ ih => exact ih
  | _ =>
      rw [Nat.sub_self]
      rfl

/-- The nodes that are asked for are those that are taken, and the one at the
end of the trail if it stops there. -/
theorem asked_eq (h : Trail nodes p steps q stop) :
    ∃ last ≤ 1, steps.filterMap WalkStep.asked?
      = List.range' p (q - p + last) := by
  induction h with
  | done => exact ⟨0, Nat.zero_le _, by rw [Nat.sub_self]; rfl⟩
  | @take p q _ _ _ _ _ hrest ih =>
      obtain ⟨last, hlast, ih⟩ := ih
      have hcount : q - p + last = q - (p + 1) + last + 1 := by
        have hforward := hrest.forward
        omega
      refine ⟨last, hlast, ?_⟩
      rw [hcount, List.range'_succ, ← ih]
      rfl
  | build _ _ ih => exact ih
  | deep => exact ⟨1, Nat.le_refl _, by rw [Nat.sub_self]; rfl⟩
  | ended _ => exact ⟨1, Nat.le_refl _, by rw [Nat.sub_self]; rfl⟩
  | unbuilt _ _ => exact ⟨0, Nat.zero_le _, by rw [Nat.sub_self]; rfl⟩

theorem depth_le_of_take (h : Trail nodes p steps q stop) {depth cursor : Nat}
    (hmem : .take depth cursor ∈ steps) : depth ≤ Key.maxKeyDepth := by
  induction h with
  | take hdepth _ _ ih =>
      rcases hmem with _ | ⟨_, _ | ⟨_, hmem⟩⟩
      · exact hdepth
      · exact ih hmem
  | build _ _ ih =>
      rcases hmem with _ | ⟨_, hmem⟩
      exact ih hmem
  | _ => nomatch hmem

theorem room_of_build (h : Trail nodes p steps q stop) {members : List Key}
    (hmem : .build members ∈ steps) :
    KeyList.make members ≠ .error .tooDeep := by
  induction h with
  | take _ _ _ ih =>
      rcases hmem with _ | ⟨_, _ | ⟨_, hmem⟩⟩
      exact ih hmem
  | build hroom _ ih =>
      rcases hmem with _ | ⟨_, hmem⟩
      · exact hroom
      · exact ih hmem
  | unbuilt hroom _ =>
      rcases hmem with _ | ⟨_, ⟨⟩⟩
      exact hroom
  | _ => nomatch hmem

/-- A trail stops for its depth exactly where a node is asked for one level
deeper than a key may be high. -/
theorem tooDeep_iff (h : Trail nodes p steps q stop) :
    stop = some .tooDeep
      ↔ ∃ cursor, .ask (Key.maxKeyDepth + 1) cursor ∈ steps := by
  induction h with
  | done => simp
  | take hdepth _ _ ih =>
      have hother := Nat.ne_of_gt (Nat.lt_succ_of_le hdepth)
      simp [ih, hother]
  | build _ _ ih => simp [ih]
  | deep => simp
  | ended hdepth =>
      have hother := Nat.ne_of_gt (Nat.lt_succ_of_le hdepth)
      simp [hother]
  | unbuilt _ he => simp [he]

end Trail

-- ========================================================= the law of a walk

/-- Why a walk stopped, if it did. -/
def Walked.stop {α : Type} (r : Walked α) : Option KeyError :=
  match r.outcome with
  | .error e => some e
  | .ok _ => none

namespace Walk

variable {α β : Type} {nodes : List KeyToken} {result : α → Prop}
  {result' : β → Prop}

/-- From every place of an array a walk leaves a trail, and comes to what is
expected if it does not stop on the way. -/
def Safe (nodes : List KeyToken) (result : α → Prop) (w : Walk α) : Prop :=
  ∀ p ≤ nodes.length, Trail nodes p (w p).steps (w p).cursor (w p).stop
    ∧ ∀ a, (w p).outcome = .ok a → result a

theorem safe_pure {a : α} (h : result a) :
    (pure a : Walk α).Safe nodes result :=
  fun _ _ => ⟨.done, fun _ heq => Except.ok.inj heq ▸ h⟩

/-- Two safe walks are safe one behind the other. -/
theorem Safe.bind {w : Walk α} {next : α → Walk β} (hw : w.Safe nodes result)
    (hnext : ∀ a, result a → (next a).Safe nodes result') :
    (w >>= next).Safe nodes result' := by
  intro p hp
  obtain ⟨htrail, hresult⟩ := hw p hp
  match hwalked : w p with
  | ⟨.error e, q, steps⟩ =>
      rw [hwalked] at htrail
      rw [bind_of_error hwalked]
      exact ⟨htrail, nofun⟩
  | ⟨.ok a, q, steps⟩ =>
      rw [hwalked] at htrail hresult
      obtain ⟨hrest, hresult'⟩ := hnext a (hresult a rfl) q (htrail.within hp)
      rw [bind_of_ok hwalked]
      exact ⟨htrail.append hrest, hresult'⟩

theorem safe_refuse :
    (refuse (Key.maxKeyDepth + 1)).Safe nodes result :=
  fun _ _ => ⟨.deep, nofun⟩

theorem safe_take {depth : Nat} (hdepth : depth ≤ Key.maxKeyDepth) :
    (take nodes depth).Safe nodes fun _ => True := by
  intro p hp
  cases hnode : nodes[p]? with
  | none =>
      obtain rfl : p = nodes.length :=
        Nat.le_antisymm hp (List.getElem?_eq_none_iff.1 hnode)
      rw [take_eq_none hnode]
      exact ⟨.ended hdepth, nofun⟩
  | some t =>
      obtain ⟨hplace, -⟩ := List.getElem?_eq_some_iff.1 hnode
      rw [take_eq_some hnode]
      exact ⟨.take hdepth hplace .done, fun _ _ => True.intro⟩

/-- A composite is built safely where there is room for its level. -/
theorem safe_build {make : List Key → Except KeyError Key} {members : List Key}
    {result : Key → Prop} (hroom : KeyList.make members ≠ .error .tooDeep)
    (hmake : make members ≠ .error .tooDeep)
    (hresult : ∀ k, make members = .ok k → result k) :
    (build make members).Safe nodes result := by
  intro p _
  refine ⟨?_, hresult⟩
  unfold build Walked.stop
  dsimp only
  cases hmade : make members with
  | error e =>
      rw [hmade] at hmake
      exact .unbuilt hroom fun he => hmake (he ▸ rfl)
  | ok k => exact .build hroom .done

/-- What is read several times at a level has room for as much. -/
theorem safe_times {w : Walk Key} {levels : Nat}
    (hw : w.Safe nodes fun k => k.depth ≤ levels) (n : Nat) :
    (w.times n).Safe nodes fun ks => Key.maxDepth ks ≤ levels := by
  induction n with
  | zero => exact safe_pure (Nat.zero_le _)
  | succ n ih =>
      refine hw.bind fun k hk => ih.bind fun ks hks => safe_pure ?_
      exact Nat.max_le.2 ⟨hk, hks⟩

end Walk

namespace Key

/-- Members that leave room for their level do not fail for their height. -/
theorem make_ne_tooDeep {members : List Key}
    (h : maxDepth members < maxKeyDepth) :
    KeyList.make members ≠ .error .tooDeep := by
  unfold KeyList.make
  rw [if_pos h]
  split
  · nofun
  · nofun

/-- A list of members that are read at a level is safe to build, and one level
higher than they. -/
theorem safe_build_list {nodes : List KeyToken} {members : List Key}
    {levels : Nat} (hmembers : maxDepth members ≤ levels)
    (hlevels : levels < maxKeyDepth) :
    (Walk.build makeList members).Safe nodes fun k => k.depth ≤ levels + 1 := by
  have hroom := make_ne_tooDeep (Nat.lt_of_le_of_lt hmembers hlevels)
  refine Walk.safe_build hroom (bind_ne_error hroom nofun) fun k hk => ?_
  obtain ⟨-, -, rfl⟩ := makeList_eq_ok.1 hk
  rw [depth]
  omega

/-- A threshold of such members is safe to build as well: if its number is
out of range, it fails for that. -/
theorem safe_build_threshold {nodes : List KeyToken} {members : List Key}
    {levels : Nat} (required : UInt32) (hmembers : maxDepth members ≤ levels)
    (hlevels : levels < maxKeyDepth) :
    (Walk.build (makeThreshold required) members).Safe nodes
      fun k => k.depth ≤ levels + 1 := by
  have hroom := make_ne_tooDeep (Nat.lt_of_le_of_lt hmembers hlevels)
  have hrange : ∀ l : KeyList, (if 1 ≤ required.toNat
      ∧ required.toNat ≤ l.members.length then pure (threshold required l.members)
      else throw (.thresholdOutOfRange required l.members.length)
        : Except KeyError Key) ≠ .error .tooDeep := by
    intro l
    split
    · nofun
    · nofun
  refine Walk.safe_build hroom (bind_ne_error hroom hrange) fun k hk => ?_
  obtain ⟨-, -, -, -, rfl⟩ := makeThreshold_eq_ok.1 hk
  rw [depth]
  omega

/-- What is read at a depth is read safely, and is no higher than the levels
that are left there. -/
theorem safe_walkNode (nodes : List KeyToken) {levels depth : Nat}
    (h : depth + levels = maxKeyDepth + 1) (hdepth : 1 ≤ depth) :
    (walkNode nodes depth).Safe nodes fun k => k.depth ≤ levels := by
  induction levels generalizing depth with
  | zero =>
      obtain rfl : depth = maxKeyDepth + 1 := h
      rw [walkNode, if_neg (Nat.not_succ_le_self _)]
      exact Walk.safe_refuse
  | succ levels ih =>
      have hmembers : ∀ n, (Walk.times (walkNode nodes (depth + 1)) n).Safe nodes
          fun ks => maxDepth ks ≤ levels :=
        Walk.safe_times (ih (by omega) (by omega))
      have hlevels : levels < maxKeyDepth := by omega
      rw [walkNode, if_pos (by omega)]
      refine (Walk.safe_take (by omega)).bind fun t _ => ?_
      cases t with
      | leaf l => exact Walk.safe_pure (Nat.le_add_left 1 levels)
      | list children =>
          exact (hmembers children.toNat).bind fun ks hks =>
            safe_build_list hks hlevels
      | threshold required children =>
          exact (hmembers children.toNat).bind fun ks hks =>
            safe_build_threshold required hks hlevels

/-- The walk over an array leaves a trail. -/
theorem trail_walk (nodes : List KeyToken) :
    Trail nodes 0 (walk nodes).steps (walk nodes).cursor (walk nodes).stop :=
  (safe_walkNode nodes (Nat.add_comm 1 maxKeyDepth) (Nat.le_refl 1) 0
    (Nat.zero_le _)).1

/-- What is left over behind a key is no fault of its height. -/
theorem ofNodes_tooDeep_iff (nodes : List KeyToken) :
    ofNodes nodes = .error .tooDeep ↔ (walk nodes).stop = some .tooDeep := by
  rw [ofNodes_eq_finish]
  unfold Walked.finish Walked.stop
  cases (walk nodes).outcome with
  | error e => simp [bind, Except.bind]
  | ok k =>
      refine iff_of_false (bind_ne_error nofun fun k => ?_) nofun
      dsimp only
      split
      · nofun
      · nofun

/-- The reader of nodes stays within bounds on every array, whatever the counts
and the nesting in it. It is a walk over the array, which takes the nodes from
left to right, each of them once, and stops at the end of the array at the
latest; what is left is the difference. It asks for the nodes from
left to right, too, at most once more than there are nodes. No node is taken
deeper than a key may be high; the members of a composite, once they are read,
leave room for its level; and the array is too deep exactly where a node is
asked for one level deeper than a key may be high. -/
theorem walk_within_bounds (nodes : List KeyToken) :
    ofNodes nodes = (walk nodes).finish nodes.length
      ∧ (walk nodes).steps.filterMap WalkStep.taken?
        = List.range (walk nodes).cursor
      ∧ (walk nodes).cursor ≤ nodes.length
      ∧ (∃ n ≤ nodes.length + 1,
        (walk nodes).steps.filterMap WalkStep.asked? = List.range n)
      ∧ (∀ depth cursor, .take depth cursor ∈ (walk nodes).steps →
        depth ≤ maxKeyDepth)
      ∧ (∀ members, .build members ∈ (walk nodes).steps →
        KeyList.make members ≠ .error .tooDeep)
      ∧ (ofNodes nodes = .error .tooDeep
        ↔ ∃ cursor, .ask (maxKeyDepth + 1) cursor ∈ (walk nodes).steps) := by
  have htrail := trail_walk nodes
  have hwithin := htrail.within (Nat.zero_le _)
  refine ⟨ofNodes_eq_finish nodes, ?_, hwithin, ?_,
    fun _ _ => htrail.depth_le_of_take, fun _ => htrail.room_of_build, ?_⟩
  · rw [htrail.taken_eq, List.range_eq_range', Nat.sub_zero]
  · obtain ⟨last, hlast, hasked⟩ := htrail.asked_eq
    refine ⟨(walk nodes).cursor + last, Nat.add_le_add hwithin hlast, ?_⟩
    rw [hasked, List.range_eq_range', Nat.sub_zero]
  · rw [ofNodes_tooDeep_iff, htrail.tooDeep_iff]

/-- A list that promises 2³² - 1 members and holds a threshold of none of
one. -/
def boasting : List KeyToken :=
  [.list 4294967295, .threshold 0 1, .leaf (.ed25519 [1])]

/-- The threshold is read with its member, and refused. -/
theorem walk_boasting :
    walk boasting = ⟨.error (.thresholdOutOfRange 0 1), 3,
      [.ask 1 0, .take 1 0, .ask 2 1, .take 2 1, .ask 3 2, .take 3 2,
        .build [.leaf (.ed25519 [1])]]⟩ := by
  have hleaf : walkNode boasting 3 2
      = ⟨.ok (.leaf (.ed25519 [1])), 3, [.ask 3 2, .take 3 2]⟩ := by
    rw [walkNode, if_pos (by decide), Walk.bind_of_ok (Walk.take_eq_some rfl)]
    rfl
  have hmember : (walkNode boasting 3).times 1 2
      = ⟨.ok [.leaf (.ed25519 [1])], 3, [.ask 3 2, .take 3 2]⟩ := by
    rw [Walk.times, Walk.bind_of_ok hleaf]
    rfl
  have hthreshold : walkNode boasting 2 1
      = ⟨.error (.thresholdOutOfRange 0 1), 3, [.ask 2 1, .take 2 1, .ask 3 2,
          .take 3 2, .build [.leaf (.ed25519 [1])]]⟩ := by
    rw [walkNode, if_pos (by decide), Walk.bind_of_ok (Walk.take_eq_some rfl),
      walkOn, show (1 : UInt32).toNat = 1 from rfl, Walk.bind_of_ok hmember]
    rfl
  -- The other members that were promised are never asked for.
  have hcount : (4294967295 : UInt32).toNat = 4294967294 + 1 := rfl
  rw [walk, walkNode, if_pos (by decide), Walk.bind_of_ok (Walk.take_eq_some rfl),
    walkOn, hcount, Walk.times,
    Walk.bind_of_error (Walk.bind_of_error hthreshold)]
  rfl

/-- What the walk over the boasting list does is within bounds, and an array of
nothing but lists is too deep where the sixteenth is asked for. -/
theorem walk_within_bounds_boasting :
    (.take 3 2 ∈ (walk boasting).steps ∧ 3 ≤ maxKeyDepth)
      ∧ (.build [.leaf (.ed25519 [1])] ∈ (walk boasting).steps
        ∧ KeyList.make [.leaf (.ed25519 [1])] ≠ .error .tooDeep)
      ∧ ∃ cursor,
        .ask 16 cursor ∈ (walk (List.replicate 16 (.list 1))).steps := by
  obtain ⟨-, -, -, -, htake, hbuild, -⟩ := walk_within_bounds boasting
  obtain ⟨-, -, -, -, -, -, hdeep⟩ :=
    walk_within_bounds (List.replicate 16 (.list 1))
  have htaken : .take 3 2 ∈ (walk boasting).steps := by
    rw [walk_boasting]
    simp
  have hbuilt : .build [.leaf (.ed25519 [1])] ∈ (walk boasting).steps := by
    rw [walk_boasting]
    simp
  exact ⟨⟨htaken, htake 3 2 htaken⟩, ⟨hbuilt, hbuild _ hbuilt⟩, hdeep.1 rfl⟩

end Key

end SigningOrder
