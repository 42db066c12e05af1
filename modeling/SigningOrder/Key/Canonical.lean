/-
Legacy encodings of leaves and the forms that stand for them. Two algorithms
have a second way to write the same public key: an Ed25519 key may be wrapped
in a public-key info structure, and a secp256k1 point may be uncompressed.
`Key.canonical` writes every leaf in the one form, and `Key.sameKey` compares
two keys by what they decode to. Both deduplication and revocation compare keys
this way.
-/
import SigningOrder.Key

namespace SigningOrder

namespace LeafKey

/-- The header of the public-key info structure around a plain Ed25519 key. -/
def ed25519Header : Bytes :=
  [0x30, 0x2a, 0x30, 0x05, 0x06, 0x03, 0x2b, 0x65, 0x70, 0x03, 0x21, 0x00]

/-- The plain key inside a public-key info structure, if the payload is one. -/
def unwrapEd25519 (bytes : Bytes) : Bytes :=
  if bytes.length = 44 ∧ bytes.take 12 = ed25519Header then bytes.drop 12
  else bytes

/-- The compressed form of an uncompressed secp256k1 point: the parity of the
second coordinate, and the first coordinate. -/
def compressSecp256k1 (bytes : Bytes) : Bytes :=
  if bytes.length = 65 ∧ bytes.head? = some 0x04 then
    (if (bytes.getLastD 0).toNat % 2 = 0 then 0x02 else 0x03)
      :: (bytes.drop 1).take 32
  else bytes

/-- The payload with a legacy encoding reduced to the form that stands for
it. -/
def canonicalBytes (l : LeafKey) : Bytes :=
  match l.algorithm with
  | .ed25519 => unwrapEd25519 l.bytes
  | .ecdsaSecp256k1 => compressSecp256k1 l.bytes
  | .ecdsaP384 => l.bytes
  | .rsa3072 => l.bytes
  | .contractId => l.bytes

/-- The leaf in the form that stands for it. -/
def canonical (l : LeafKey) : LeafKey :=
  ⟨l.algorithm, l.canonicalBytes⟩

/-- Whether two leaves decode to the same public key. -/
def sameKey (a b : LeafKey) : Bool :=
  a.algorithm == b.algorithm && a.canonicalBytes == b.canonicalBytes

end LeafKey

mutual

/-- The same tree with every leaf in the form that stands for it. -/
def Key.canonical : Key → Key
  | .leaf l => .leaf l.canonical
  | .list members => .list (Key.canonicalMembers members)
  | .threshold required members =>
    .threshold required (Key.canonicalMembers members)

/-- Keys with every leaf in the form that stands for it. -/
def Key.canonicalMembers : List Key → List Key
  | [] => []
  | k :: ks => Key.canonical k :: Key.canonicalMembers ks

end

mutual

/-- Whether two trees have the same shape and thresholds, and leaves that
decode to the same public keys. -/
def Key.sameKey : Key → Key → Bool
  | .leaf a, .leaf b => a.sameKey b
  | .list as, .list bs => Key.sameKeys as bs
  | .threshold m as, .threshold n bs => m == n && Key.sameKeys as bs
  | .leaf _, .list _ => false
  | .leaf _, .threshold _ _ => false
  | .list _, .leaf _ => false
  | .list _, .threshold _ _ => false
  | .threshold _ _, .leaf _ => false
  | .threshold _ _, .list _ => false

/-- Whether two lists have the same length and members that are the same keys
pairwise. -/
def Key.sameKeys : List Key → List Key → Bool
  | [], [] => true
  | a :: as, b :: bs => Key.sameKey a b && Key.sameKeys as bs
  | [], _ :: _ => false
  | _ :: _, [] => false

end

/-- Whether two lists have the same length and members that are the same keys
pairwise. -/
def KeyList.sameKeys (a b : KeyList) : Bool :=
  Key.sameKeys a.members b.members

end SigningOrder
