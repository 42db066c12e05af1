/-
Documents: the tree of named and listed values in which transactions, records
and configurations are given and shown. `Format.lean` says of each type of the
model how it is written as a document and read from one; this file holds the
tree itself and the two ways in which reading can fail.
-/
import SigningOrder.Key

namespace SigningOrder

/-- A value of a document. -/
inductive Document where
  | null
  | bool (value : Bool)
  | int (value : Int)
  | text (value : String)
  | list (items : List Document)
  /-- A list that may go on behind the fields of a record that is read from
  it. -/
  | openList (items : List Document)
  | object (entries : List (String × Document))
  /-- A scalar that no type of the model takes, such as a fraction. -/
  | other
  deriving Inhabited, Repr

/-- Why a document is not a value of the model. -/
inductive ReadError where
  /-- The document has not the form of the type. -/
  | malformed
  /-- The form is right, and the key that it gives may not exist. -/
  | key (error : KeyError)
  deriving DecidableEq, Repr

namespace Document

/-- The entry of an object under a name. -/
def entry? (name : String) (entries : List (String × Document)) :
    Option Document :=
  (entries.find? fun e => e.1 == name).map (·.2)

end Document

mutual

/-- The height of a document; a scalar has height 1. -/
def Document.depth : Document → Nat
  | .null => 1
  | .bool _ => 1
  | .int _ => 1
  | .text _ => 1
  | .other => 1
  | .list items => 1 + Document.maxDepth items
  | .openList items => 1 + Document.maxDepth items
  | .object entries => 1 + Document.maxEntryDepth entries

/-- The greatest height among items, 0 for none. -/
def Document.maxDepth : List Document → Nat
  | [] => 0
  | d :: ds => max (Document.depth d) (Document.maxDepth ds)

/-- The greatest height among entries, 0 for none. -/
def Document.maxEntryDepth : List (String × Document) → Nat
  | [] => 0
  | (_, d) :: es => max (Document.depth d) (Document.maxEntryDepth es)

end

end SigningOrder
