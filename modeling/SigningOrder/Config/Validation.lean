/-
Valid configurations. The checks run in a fixed order, and the first that fails
names what is wrong: the size of the reserved range, then each well-known
number in turn, then the two superusers, then the waived payers one by one, and
last whether the waived payers are system accounts.
-/
import SigningOrder.Config

namespace SigningOrder

/-- What is wrong with a configuration. -/
inductive ConfigFault where
  /-- The reserved range is too small. -/
  | reservedTooSmall (reserved : UInt64)
  /-- A well-known number is not in the reserved range. -/
  | outOfRange (name : String) (reserved num : UInt64)
  /-- The treasury is the system administrator. -/
  | sameSuperuser (num : UInt64)
  | waivedZero
  | waivedTwice (num : UInt64)
  /-- A waived payer is not in the reserved range. -/
  | waivedOutside (reserved num : UInt64)
  deriving DecidableEq, Repr

/-- The least size of the reserved range. -/
def minReserved : UInt64 := 100

namespace ConfigFault

/-- What a fault says. -/
def cause : ConfigFault → String
  | reservedTooSmall reserved =>
    "num_reserved_system_entities must be >= " ++ toString minReserved.toNat ++
      ", got " ++ toString reserved.toNat
  | outOfRange name reserved num =>
    name ++ " must be in 1..=" ++ toString reserved.toNat ++ ", got " ++
      toString num.toNat
  | sameSuperuser num =>
    "treasury and system_admin must differ, both are " ++ toString num.toNat
  | waivedZero => "waived_payer_accounts must not contain 0"
  | waivedTwice num =>
    "waived_payer_accounts lists " ++ toString num.toNat ++ " more than once"
  | waivedOutside reserved num =>
    "waived payer " ++ toString num.toNat ++
      " is not a system account (must be <= " ++ toString reserved.toNat ++ ")"

/-- The wording of a fault. -/
def message (f : ConfigFault) : String :=
  "invalid config: " ++ f.cause

end ConfigFault

namespace EntityNumbers

/-- Checks that named numbers are in the reserved range. -/
def checkRange (reserved : UInt64) :
    List (String × UInt64) → Except ConfigFault Unit
  | [] => .ok ()
  | (name, num) :: rest =>
    if num = 0 ∨ reserved < num then .error (.outOfRange name reserved num)
    else checkRange reserved rest

/-- Checks the well-known numbers. -/
def validate (x : EntityNumbers) : Except ConfigFault Unit := do
  if x.reserved < minReserved then throw (.reservedTooSmall x.reserved)
  checkRange x.reserved (x.namedAccounts ++ x.files.named)
  if x.treasury = x.systemAdmin then throw (.sameSuperuser x.treasury)

end EntityNumbers

namespace WaiverConfig

/-- Checks that no number is zero or among those seen before it. -/
def checkWaived (seen : List UInt64) : List UInt64 → Except ConfigFault Unit
  | [] => .ok ()
  | num :: rest =>
    if num = 0 then .error .waivedZero
    else if num ∈ seen then .error (.waivedTwice num)
    else checkWaived (num :: seen) rest

/-- Checks the waived payers. -/
def validate (x : WaiverConfig) : Except ConfigFault Unit :=
  checkWaived [] x.waivedPayerAccounts

end WaiverConfig

namespace SigningConfig

/-- Checks that the waived payers are in the reserved range. -/
def checkWaivedRange (x : SigningConfig) : Except ConfigFault Unit :=
  match x.waivers.waivedPayerAccounts.find?
      fun num => x.entities.reserved < num with
  | some num => .error (.waivedOutside x.entities.reserved num)
  | none => .ok ()

/-- Checks a configuration. -/
def validate (x : SigningConfig) : Except ConfigFault Unit := do
  x.entities.validate
  x.waivers.validate
  x.checkWaivedRange

/-- Puts a configuration together; each part is checked before the whole. -/
def make (entities : EntityNumbers) (waivers : WaiverConfig) :
    Except ConfigFault SigningConfig := do
  let config : SigningConfig := ⟨entities, waivers⟩
  config.validate
  return config

end SigningConfig

end SigningOrder
