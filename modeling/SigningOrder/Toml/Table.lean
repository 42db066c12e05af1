/-
Tables of TOML while they are put together. A name is given once: a table that
a header opened cannot be opened again, and a table that dotted keys made
cannot be opened by a header, nor the other way around. A table that only came
to be on the way to another may still be opened.
-/
import SigningOrder.Document

namespace SigningOrder

namespace Toml

/-- What stands under a name. -/
inductive Item where
  | value (value : Document)
  /-- A table. It is implicit if no header opened it, and dotted if a dotted
  key made it. -/
  | table (implicit dotted : Bool) (entries : List (String × Item))
  /-- The tables that headers of a list opened, the latest first. -/
  | tables (elements : List (List (String × Item)))

/-- The entries of a table. -/
abbrev Entries := List (String × Item)

namespace Entries

/-- Changes what stands under a name. -/
def update (name : String) (change : Option Item → Option Item) :
    Entries → Option Entries
  | [] => (change none).map fun item => [(name, item)]
  | (other, item) :: rest =>
    if other = name then
      (change (some item)).map fun item => (other, item) :: rest
    else (update name change rest).map fun rest => (other, item) :: rest

/-- Changes the table at the end of a path, which is made where it is missing.
The path of a dotted key leads through no table that a header opened. -/
def within (dotted : Bool) (change : Bool → Entries → Option Entries) :
    (path : List String) → (isDotted : Bool) → Entries → Option Entries
  | [], isDotted, entries => change isDotted entries
  | name :: path, _, entries =>
    update name
      (fun
        | none => (within dotted change path dotted []).map (.table true dotted)
        | some (.value _) => none
        | some (.tables []) => none
        | some (.tables (latest :: others)) =>
          (within dotted change path false latest).map
            fun es => .tables (es :: others)
        | some (.table implicit isDotted es) =>
          if dotted && !implicit then none
          else
            (within dotted change path isDotted es).map
              (.table implicit isDotted))
      entries

end Entries

/-- A key and its value: the path to the table, the name in it, and the
value. -/
structure Pair where
  path : List String
  name : String
  value : Document

namespace Entries

/-- Adds a value under a name that is not given yet. -/
def addNew (name : String) (value : Document) : Entries → Option Entries :=
  update name fun
    | none => some (.value value)
    | some _ => none

/-- Adds a pair to a table. -/
def addPair (entries : Entries) (p : Pair) : Option Entries :=
  within true
    (fun isDotted es =>
      if isDotted == p.path.isEmpty then none else addNew p.name p.value es)
    p.path false entries

/-- Adds pairs to a table in turn. -/
def addPairs (entries : Entries) (pairs : List Pair) : Option Entries :=
  pairs.foldlM addPair entries

end Entries

/-- A header and the pairs behind it. -/
structure Section where
  /-- Whether the header opens an element of a list of tables. -/
  element : Bool
  path : List String
  name : String
  pairs : List Pair

namespace Entries

/-- Adds a section below the top of a document. -/
def addSection (entries : Entries) (s : Section) : Option Entries :=
  within false
    (fun _ es =>
      update s.name
        (fun
          | none => do
            let filled ← addPairs [] s.pairs
            return if s.element then .tables [filled]
              else .table false false filled
          | some (.tables others) => do
            let filled ← addPairs [] s.pairs
            if s.element then return .tables (filled :: others) else none
          | some (.table true false es) => do
            let filled ← addPairs es s.pairs
            if s.element then none else return .table false false filled
          | some _ => none)
        es)
    s.path false entries

end Entries

mutual

/-- What stands under a name, as a document. -/
def Item.toDocument : Item → Document
  | .value d => d
  | .table _ _ entries => .object (Item.entriesToDocument entries)
  | .tables elements => .openList (Item.elementsToDocuments elements).reverse

/-- The entries of a table, as entries of an object. -/
def Item.entriesToDocument : List (String × Item) → List (String × Document)
  | [] => []
  | (name, item) :: rest =>
    (name, Item.toDocument item) :: Item.entriesToDocument rest

/-- Tables, as documents in the same order. -/
def Item.elementsToDocuments : List (List (String × Item)) → List Document
  | [] => []
  | es :: rest =>
    .object (Item.entriesToDocument es) :: Item.elementsToDocuments rest

end

end Toml

end SigningOrder
