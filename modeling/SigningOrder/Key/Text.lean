/-
How keys are shown. A leaf shows its algorithm and the first bytes of the form
that stands for it, a list its members between brackets, and a threshold its
number before them. The text is for people: two keys may share it.
-/
import SigningOrder.Key.Canonical

namespace SigningOrder

namespace LeafKey

/-- How many bytes of a leaf are shown. -/
def shownBytes : Nat := 6

/-- The text of a leaf, with two dots where bytes are left out. -/
def text (l : LeafKey) : String :=
  let bytes := l.canonicalBytes
  l.algorithm.shortName ++ ":" ++ Hex.encode (bytes.take shownBytes) ++
    (if shownBytes < bytes.length then ".." else "")

end LeafKey

mutual

/-- The text of a key. -/
def Key.text : Key → String
  | .leaf l => l.text
  | .list members => "[" ++ ", ".intercalate (Key.texts members) ++ "]"
  | .threshold required members =>
    toString required.toNat ++ "-of-[" ++
      ", ".intercalate (Key.texts members) ++ "]"

/-- The texts of keys. -/
def Key.texts : List Key → List String
  | [] => []
  | k :: ks => Key.text k :: Key.texts ks

end

end SigningOrder
