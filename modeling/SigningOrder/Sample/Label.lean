/-
Sample keys. A key is made of its label alone, so whoever knows the label knows
the key, and different labels give different keys unless their digests are
equal.
-/
import SigningOrder.Digest.Sha256
import SigningOrder.Key

namespace SigningOrder

namespace Sample

/-- The leaf of a label: the digest of its text. -/
def leaf (label : String) : LeafKey :=
  .ed25519 (Sha256.digest label.toByteArray.data.toList)

/-- The key of a label. -/
def key (label : String) : Key :=
  .leaf (leaf label)

/-- A list with a key for each label. -/
def list (labels : List String) : Except KeyError KeyList :=
  KeyList.make (labels.map key)

/-- A threshold over a key for each label. -/
def threshold (required : UInt32) (labels : List String) :
    Except KeyError Key :=
  Key.makeThreshold required (labels.map key)

/-- The keys of labels as they guard a file. -/
def wacl (labels : List String) : KeyList :=
  ⟨labels.map key⟩

end Sample

end SigningOrder
