/-
Keys, the signing requirements of the ledger. A key is a leaf, which holds one
public key, a list, all of whose members must sign, or a threshold, at least so
many of whose members must sign. `Key` is the plain tree; `Key.Valid` says
which trees may exist, and the checked constructors `LeafKey.make`,
`Key.makeList` and `Key.makeThreshold` build those and report why another
cannot be built.
-/
import SigningOrder.Bytes
import SigningOrder.Entity

namespace SigningOrder

/-- The signature algorithm of a leaf. -/
inductive KeyAlgorithm where
  | ed25519
  | ecdsaSecp256k1
  | ecdsaP384
  | rsa3072
  /-- A legacy marker that names a contract as its own admin key. No
  signature satisfies it, and it counts as no admin key wherever one would be
  required. -/
  | contractId
  deriving DecidableEq, Repr

namespace KeyAlgorithm

/-- The name of an algorithm in written keys and in messages. -/
def name : KeyAlgorithm → String
  | ed25519 => "Ed25519"
  | ecdsaSecp256k1 => "EcdsaSecp256k1"
  | ecdsaP384 => "EcdsaP384"
  | rsa3072 => "Rsa3072"
  | contractId => "ContractId"

/-- The short name of an algorithm, which shown keys begin with. -/
def shortName : KeyAlgorithm → String
  | ed25519 => "ed25519"
  | ecdsaSecp256k1 => "secp256k1"
  | ecdsaP384 => "p384"
  | rsa3072 => "rsa3072"
  | contractId => "contract"

/-- All algorithms, in the order of their written numbers. -/
def all : List KeyAlgorithm :=
  [ed25519, ecdsaSecp256k1, ecdsaP384, rsa3072, contractId]

end KeyAlgorithm

-- ===================================================================== trees

/-- One public key, or a legacy marker, under its algorithm. -/
structure LeafKey where
  algorithm : KeyAlgorithm
  bytes : Bytes
  deriving DecidableEq, Repr

/-- A signing requirement. -/
inductive Key where
  | leaf (leaf : LeafKey)
  /-- All members must sign. -/
  | list (members : List Key)
  /-- At least `required` members must sign. -/
  | threshold (required : UInt32) (members : List Key)
  deriving Repr

/-- The members of a list, where a key must be one. -/
structure KeyList where
  members : List Key
  deriving Repr

mutual

/-- Decides whether two keys are the same tree, byte for byte. -/
def Key.decEq : (a b : Key) → Decidable (a = b)
  | .leaf a, .leaf b =>
    if h : a = b then isTrue (congrArg _ h)
    else isFalse fun e => h (Key.leaf.inj e)
  | .list as, .list bs =>
    match Key.decEqMembers as bs with
    | isTrue h => isTrue (congrArg _ h)
    | isFalse h => isFalse fun e => h (Key.list.inj e)
  | .threshold m as, .threshold n bs =>
    if h : m = n then
      match Key.decEqMembers as bs with
      | isTrue hs => isTrue (h ▸ hs ▸ rfl)
      | isFalse hs => isFalse fun e => hs (Key.threshold.inj e).2
    else isFalse fun e => h (Key.threshold.inj e).1
  | .leaf _, .list _ => isFalse nofun
  | .leaf _, .threshold _ _ => isFalse nofun
  | .list _, .leaf _ => isFalse nofun
  | .list _, .threshold _ _ => isFalse nofun
  | .threshold _ _, .leaf _ => isFalse nofun
  | .threshold _ _, .list _ => isFalse nofun

/-- Decides whether two lists of keys are the same, member by member. -/
def Key.decEqMembers : (as bs : List Key) → Decidable (as = bs)
  | [], [] => isTrue rfl
  | [], _ :: _ => isFalse nofun
  | _ :: _, [] => isFalse nofun
  | a :: as, b :: bs =>
    match Key.decEq a b with
    | isTrue h =>
      match Key.decEqMembers as bs with
      | isTrue hs => isTrue (h ▸ hs ▸ rfl)
      | isFalse hs => isFalse fun e => hs (List.cons.inj e).2
    | isFalse h => isFalse fun e => h (List.cons.inj e).1

end

instance : DecidableEq Key := Key.decEq

instance : DecidableEq KeyList := fun a b =>
  if h : a.members = b.members then isTrue (by cases a; cases b; cases h; rfl)
  else isFalse fun e => h (e ▸ rfl)

mutual

/-- The height of a tree; a leaf has height 1. -/
def Key.depth : Key → Nat
  | .leaf _ => 1
  | .list members => 1 + Key.maxDepth members
  | .threshold _ members => 1 + Key.maxDepth members

/-- The greatest height among keys, 0 for none. -/
def Key.maxDepth : List Key → Nat
  | [] => 0
  | k :: ks => max (Key.depth k) (Key.maxDepth ks)

end

mutual

/-- The leaves of a tree, from left to right. -/
def Key.leaves : Key → List LeafKey
  | .leaf l => [l]
  | .list members => Key.leavesOf members
  | .threshold _ members => Key.leavesOf members

/-- The leaves of keys, from left to right. -/
def Key.leavesOf : List Key → List LeafKey
  | [] => []
  | k :: ks => Key.leaves k ++ Key.leavesOf ks

end

namespace Key

/-- The greatest height of a key. -/
def maxKeyDepth : Nat := 15

/-- The number of leaves of a tree. -/
def leafCount (k : Key) : Nat :=
  k.leaves.length

/-- Whether a key is the legacy marker that names a contract as its own admin
key. -/
def isDeprecated : Key → Bool
  | leaf l => l.algorithm == .contractId
  | list _ => false
  | threshold _ _ => false

/-- A list of members as a key. -/
def ofKeyList (l : KeyList) : Key :=
  list l.members

end Key

-- ================================================================== validity

mutual

/-- The shape of a key that may exist: no leaf without a payload, no composite
without a member, and a threshold between one and the number of its members. -/
def Key.WellFormed : Key → Prop
  | .leaf l => l.bytes ≠ []
  | .list members => members ≠ [] ∧ Key.AllWellFormed members
  | .threshold required members =>
    members ≠ [] ∧ 1 ≤ required.toNat ∧ required.toNat ≤ members.length ∧
      Key.AllWellFormed members

/-- All of the keys have the shape of keys that may exist. -/
def Key.AllWellFormed : List Key → Prop
  | [] => True
  | k :: ks => Key.WellFormed k ∧ Key.AllWellFormed ks

end

/-- A key that may exist: well formed, and no higher than keys may be. -/
def Key.Valid (k : Key) : Prop :=
  k.WellFormed ∧ k.depth ≤ Key.maxKeyDepth

/-- A leaf that may exist. -/
def LeafKey.Valid (l : LeafKey) : Prop :=
  l.bytes ≠ []

-- ====================================================== checked construction

/-- Why a key cannot be built or read. -/
inductive KeyError where
  | emptyLeaf (algorithm : KeyAlgorithm)
  | emptyList
  | thresholdOutOfRange (threshold : UInt32) (count : Nat)
  | tooDeep
  /-- The written nodes end before the tree does. -/
  | truncated
  /-- Written nodes are left over after the tree. -/
  | trailingNodes (count : Nat)
  /-- A list was expected, and a leaf or a threshold was found. -/
  | notAList
  deriving DecidableEq, Repr

namespace KeyError

/-- The wording of a key error. -/
def message : KeyError → String
  | emptyLeaf algorithm =>
    "Leaf key for " ++ algorithm.name ++ " has an empty payload"
  | emptyList => "Key lists must contain at least one key"
  | thresholdOutOfRange threshold count =>
    "Threshold " ++ toString threshold.toNat ++ " out of range for " ++
      toString count ++ " keys"
  | tooDeep => "Key tree exceeds maximum depth of " ++ toString Key.maxKeyDepth
  | truncated => "Encoded key ended before the tree was complete"
  | trailingNodes count =>
    "Encoded key has " ++ toString count ++ " trailing nodes"
  | notAList => "Expected a key list"

end KeyError

namespace LeafKey

/-- A leaf, which must have a payload. -/
def make (algorithm : KeyAlgorithm) (bytes : Bytes) : Except KeyError LeafKey :=
  if bytes = [] then .error (.emptyLeaf algorithm) else .ok ⟨algorithm, bytes⟩

/-- A plain Ed25519 leaf. -/
def ed25519 (bytes : Bytes) : LeafKey :=
  ⟨.ed25519, bytes⟩

/-- The legacy leaf that names a contract: its three numbers as big-endian
words. -/
def ofContract (c : ContractId) : LeafKey :=
  ⟨.contractId,
    BigEndian.ofWord c.shard ++ BigEndian.ofWord c.realm
      ++ BigEndian.ofWord c.num⟩

/-- The contract that a legacy leaf names. -/
def contract? (l : LeafKey) : Option ContractId :=
  if l.algorithm = .contractId ∧ l.bytes.length = 24 then
    some ⟨BigEndian.toWord (l.bytes.take 8),
      BigEndian.toWord ((l.bytes.drop 8).take 8),
      BigEndian.toWord (l.bytes.drop 16)⟩
  else none

end LeafKey

namespace KeyList

/-- A key list, which must have a member and leave room for its own level. -/
def make (members : List Key) : Except KeyError KeyList :=
  if members = [] then .error .emptyList
  else if Key.maxDepth members < Key.maxKeyDepth then .ok ⟨members⟩
  else .error .tooDeep

end KeyList

namespace Key

/-- A list key, under the checks of `KeyList.make`. -/
def makeList (members : List Key) : Except KeyError Key := do
  let l ← KeyList.make members
  return list l.members

/-- A threshold key: the checks of its members come before that of the
threshold. -/
def makeThreshold (required : UInt32) (members : List Key) :
    Except KeyError Key := do
  let l ← KeyList.make members
  if 1 ≤ required.toNat ∧ required.toNat ≤ l.members.length then
    return threshold required l.members
  else throw (.thresholdOutOfRange required l.members.length)

/-- The list that a key is. -/
def toKeyList : Key → Except KeyError KeyList
  | list members => .ok ⟨members⟩
  | leaf _ => .error .notAList
  | threshold _ _ => .error .notAList

end Key

end SigningOrder
