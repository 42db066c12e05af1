/-
The texts of identifiers. An identifier prints as `shard.realm.num` in decimal
and is read back from three components between dots, each a numeral with an
optional plus sign and any number of leading zeros. `EntityId.parse` is
consumed by whoever reads identifiers from text; `EntityRef.text` is the name
that failures show.
-/
import SigningOrder.Entity
import SigningOrder.Text.Quoted

namespace SigningOrder

/-- A component of an identifier. -/
inductive IdComponent where
  | shard
  | realm
  | num
  deriving DecidableEq, Repr

namespace IdComponent

/-- The name of a component in messages. -/
def name : IdComponent → String
  | shard => "shard"
  | realm => "realm"
  | num => "num"

end IdComponent

/-- Why a text is no identifier; both faults carry the text. -/
inductive IdParseError where
  /-- There are not exactly three components. -/
  | shape (input : String)
  /-- The component is no 64-bit numeral, and those before it are. -/
  | component (component : IdComponent) (input : String)
  deriving DecidableEq, Repr

namespace IdParseError

/-- The wording of a parse error, with the refused text quoted. -/
def message : IdParseError → String
  | shape input => "Expected `shard.realm.num`, got " ++ Text.quoted input
  | component c input =>
    "Invalid " ++ c.name ++ " component in " ++ Text.quoted input

end IdParseError

namespace Numeral

/-- A numeral without its plus sign, if it has one. -/
def unsigned : List Char → List Char
  | '+' :: digits => digits
  | digits => digits

/-- Reads a 64-bit numeral: an optional plus sign and at least one decimal
digit. -/
def read? (text : List Char) : Option UInt64 :=
  let digits := unsigned text
  let n := Nat.ofDigitChars 10 digits 0
  if digits ≠ [] ∧ digits.all Char.isDigit ∧ n < UInt64.size then
    some (UInt64.ofNat n)
  else none

end Numeral

namespace EntityId

variable {kind : EntityKind}

/-- The text of an identifier. -/
def text (id : EntityId kind) : String :=
  toString id.shard.toNat ++ "." ++ toString id.realm.toNat ++ "." ++
    toString id.num.toNat

/-- Reads one component of the identifier whose whole text is `input`. -/
def parseComponent (input : String) (c : IdComponent) (text : List Char) :
    Except IdParseError UInt64 :=
  match Numeral.read? text with
  | some n => .ok n
  | none => .error (.component c input)

/-- Reads an identifier; the first component that is no numeral decides the
error. -/
def parse (input : String) : Except IdParseError (EntityId kind) :=
  match input.toList.splitOn '.' with
  | [shard, realm, num] => do
    let shard ← parseComponent input .shard shard
    let realm ← parseComponent input .realm realm
    let num ← parseComponent input .num num
    return ⟨shard, realm, num⟩
  | _ => .error (.shape input)

end EntityId

namespace EntityKind

/-- The name of a kind in messages. -/
def name : EntityKind → String
  | account => "account"
  | file => "file"
  | contract => "contract"
  | topic => "topic"
  | token => "token"
  | schedule => "schedule"

end EntityKind

namespace EntityRef

/-- The name of an entity: its kind and its identifier. -/
def text (e : EntityRef) : String :=
  e.kind.name ++ " " ++ e.id.text

end EntityRef

end SigningOrder
