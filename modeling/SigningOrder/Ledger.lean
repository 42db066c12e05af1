/-
The published state of the ledger. A commit changes a copy of the current
snapshot and publishes the result; where the changes fail, the current snapshot
stays. A snapshot that someone holds never changes.
-/
import SigningOrder.Snapshot

namespace SigningOrder

/-- Why a commit publishes nothing. -/
inductive StateError where
  | codec (error : DecodeError)
  deriving DecidableEq, Repr

namespace StateError

/-- The wording of a state error. -/
def message : StateError → String
  | codec e => "Codec error: " ++ e.message

end StateError

/-- The ledger: the snapshot that was published last. -/
structure Ledger where
  current : Snapshot
  deriving DecidableEq, Repr

namespace Ledger

/-- A ledger without records. -/
def empty : Ledger :=
  ⟨.empty⟩

/-- Publishes what the changes make of the current snapshot. -/
def publish (ledger : Ledger) (changes : Builder → Except DecodeError Builder) :
    Except StateError Ledger :=
  match changes (.ofSnapshot ledger.current) with
  | .ok b => .ok ⟨b.build⟩
  | .error e => .error (.codec e)

/-- The ledger after a commit, which is the same where the changes fail. -/
def commit (ledger : Ledger) (changes : Builder → Except DecodeError Builder) :
    Ledger :=
  match ledger.publish changes with
  | .ok next => next
  | .error _ => ledger

end Ledger

end SigningOrder
