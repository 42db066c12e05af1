/-
The written forms of keys. A leaf is a record that is refused without a
payload; the counts of the other nodes are always given by name. A key is the
list of its nodes, read through `Key.ofNodes`, and a key list is a key that is
a list; so no bytes and no document give a key that may not exist.
-/
import SigningOrder.Format.Union
import SigningOrder.Key.Wire

namespace SigningOrder

/-- The written form of an algorithm. -/
def KeyAlgorithm.format : Format KeyAlgorithm :=
  .enumeration KeyAlgorithm.all KeyAlgorithm.name

/-- A check of a key as part of reading a document. -/
def KeyError.asReadError {α : Type} : Except KeyError α → Except ReadError α
  | .ok a => .ok a
  | .error e => .error (.key e)

namespace LeafKey

/-- The two fields of a leaf, before they are checked. -/
def fields : Fields (KeyAlgorithm × Bytes) :=
  Fields.and (.required "algorithm" KeyAlgorithm.format)
    (.required "bytes" (.list .byte))

/-- The written form of a leaf. -/
def format : Format LeafKey :=
  fields.record.convert
    (fun (algorithm, bytes) => KeyError.asReadError (make algorithm bytes))
    (fun l => (l.algorithm, l.bytes))
    fun l => l.Valid ∧ l.bytes.length < UInt64.size

end LeafKey

namespace KeyToken

/-- The number of members of a list node. -/
def listFields : Fields UInt32 :=
  .required "children" .word32

/-- The two numbers of a threshold node. -/
def thresholdFields : Fields (UInt32 × UInt32) :=
  Fields.and (.required "threshold" .word32) (.required "children" .word32)

/-- The cases of a node. -/
def cases : List (Case KeyToken) :=
  [ ⟨"Leaf", LeafKey, LeafKey.format, .leaf,
      fun | .leaf l => some l | _ => none⟩,
    ⟨"List", UInt32, listFields.namedRecord, .list,
      fun | .list n => some n | _ => none⟩,
    ⟨"Threshold", UInt32 × UInt32, thresholdFields.namedRecord,
      fun (required, n) => .threshold required n,
      fun | .threshold required n => some (required, n) | _ => none⟩ ]

/-- The written form of a node. -/
def format : Format KeyToken :=
  Case.union cases

end KeyToken

mutual

/-- The counts in a key fit their fields. -/
def Key.CountsFit : Key → Prop
  | .leaf l => l.bytes.length < UInt64.size
  | .list members => members.length < UInt32.size ∧ Key.AllCountsFit members
  | .threshold _ members =>
    members.length < UInt32.size ∧ Key.AllCountsFit members

/-- The counts in all of the keys fit their fields. -/
def Key.AllCountsFit : List Key → Prop
  | [] => True
  | k :: ks => Key.CountsFit k ∧ Key.AllCountsFit ks

end

namespace Key

/-- A key that may exist and whose counts, that of its nodes included, fit
their fields. -/
def Writable (k : Key) : Prop :=
  k.Valid ∧ k.CountsFit ∧ k.nodes.length < UInt64.size

/-- The written form of a key. -/
def format : Format Key :=
  (Format.list KeyToken.format).convert
    (fun nodes => KeyError.asReadError (ofNodes nodes))
    nodes Writable

end Key

namespace KeyList

/-- The written form of a key list: that of a key, which must be a list. -/
def format : Format KeyList :=
  Key.format.convert (fun k => KeyError.asReadError k.toKeyList) Key.ofKeyList
    fun l => (Key.ofKeyList l).Writable

end KeyList

end SigningOrder
