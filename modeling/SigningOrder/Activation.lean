/-
When signatures satisfy a key. A list needs all of its members and a threshold
its number of them. Where the keys of a file are dropped, or put again in an
equal list, the list of the file itself needs only one: whoever holds any of
its keys may give the file up. The second rule looks for lists that are the
same keys, wherever they stand.
-/
import SigningOrder.Key.Canonical

namespace SigningOrder

/-- How many members satisfy a list. -/
inductive Activation where
  /-- All of them. -/
  | standard
  /-- One for a list that is the same keys as the given one, and all for
  another. -/
  | topLevelFile (wacl : KeyList)
  deriving DecidableEq, Repr

namespace Activation

/-- The number of members that must be satisfied for a list. -/
def neededForList : Activation → List Key → Nat
  | standard, members => members.length
  | topLevelFile wacl, members =>
    if Key.sameKeys members wacl.members then 1 else members.length

end Activation

mutual

/-- Whether a key is satisfied by the leaves that have signed. -/
def Key.isActive (rule : Activation) (signed : LeafKey → Bool) : Key → Bool
  | .leaf l => signed l
  | .list members =>
    rule.neededForList members ≤ Key.countActive rule signed members
  | .threshold required members =>
    required.toNat ≤ Key.countActive rule signed members

/-- The number of keys that are satisfied. -/
def Key.countActive (rule : Activation) (signed : LeafKey → Bool) :
    List Key → Nat
  | [] => 0
  | k :: ks =>
    (if Key.isActive rule signed k then 1 else 0)
      + Key.countActive rule signed ks

end

mutual

/-- The numbers that the composites of a key need, in pre-order. -/
def Key.needs (rule : Activation) : Key → List Nat
  | .leaf _ => []
  | .list members => rule.neededForList members :: Key.needsOf rule members
  | .threshold required members => required.toNat :: Key.needsOf rule members

/-- The numbers that the composites of keys need, in pre-order. -/
def Key.needsOf (rule : Activation) : List Key → List Nat
  | [] => []
  | k :: ks => Key.needs rule k ++ Key.needsOf rule ks

end

end SigningOrder
