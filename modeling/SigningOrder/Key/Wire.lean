/-
The written form of a key: its nodes in pre-order, each composite with the
number of its members. `Key.nodes` writes it and `Key.ofNodes` reads it back.
The reader trusts no count: it goes no deeper than a key may be high, stops at
the first fault, builds each composite through the checked constructors, and
refuses nodes that are left over.
-/
import SigningOrder.Key

namespace SigningOrder

/-- One node of a written key. -/
inductive KeyToken where
  | leaf (leaf : LeafKey)
  | list (children : UInt32)
  | threshold (required children : UInt32)
  deriving DecidableEq, Repr

namespace KeyToken

/-- The number of members as a node holds it; a number too large is held as the
largest. -/
def count (n : Nat) : UInt32 :=
  UInt32.ofNat (min n (UInt32.size - 1))

end KeyToken

mutual

/-- The nodes of a key in pre-order. -/
def Key.nodes : Key → List KeyToken
  | .leaf l => [.leaf l]
  | .list members =>
    .list (KeyToken.count members.length) :: Key.nodesOf members
  | .threshold required members =>
    .threshold required (KeyToken.count members.length) :: Key.nodesOf members

/-- The nodes of keys, one after the other. -/
def Key.nodesOf : List Key → List KeyToken
  | [] => []
  | k :: ks => Key.nodes k ++ Key.nodesOf ks

end

namespace Key

/-- Reads a number of keys with the given reader, left to right. -/
def readMembers (read : List KeyToken → Except KeyError (Key × List KeyToken)) :
    Nat → List KeyToken → Except KeyError (List Key × List KeyToken)
  | 0, nodes => .ok ([], nodes)
  | n + 1, nodes => do
    let (k, nodes) ← read nodes
    let (ks, nodes) ← readMembers read n nodes
    return (k :: ks, nodes)

/-- Reads one key of a height of at most `levels` from the head of the nodes. -/
def readNode :
    (levels : Nat) → List KeyToken → Except KeyError (Key × List KeyToken)
  | 0, _ => .error .tooDeep
  | _ + 1, [] => .error .truncated
  | _ + 1, .leaf l :: nodes => .ok (leaf l, nodes)
  | levels + 1, .list children :: nodes => do
    let (members, nodes) ← readMembers (readNode levels) children.toNat nodes
    let k ← makeList members
    return (k, nodes)
  | levels + 1, .threshold required children :: nodes => do
    let (members, nodes) ← readMembers (readNode levels) children.toNat nodes
    let k ← makeThreshold required members
    return (k, nodes)

/-- Reads a key from exactly its nodes. -/
def ofNodes (nodes : List KeyToken) : Except KeyError Key := do
  let (k, rest) ← readNode maxKeyDepth nodes
  if rest = [] then return k else throw (.trailingNodes rest.length)

end Key

end SigningOrder
