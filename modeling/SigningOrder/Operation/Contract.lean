/-
Operations on contracts.
-/
import SigningOrder.Entity.Format
import SigningOrder.Instant.Format
import SigningOrder.Key.Format

namespace SigningOrder

/-- Creates a contract; without an admin key it cannot be changed. -/
structure ContractCreate where
  adminKey : Option Key
  bytecodeFile : Option FileId
  gas : UInt64
  initialBalance : UInt64
  memo : String
  deriving DecidableEq, Repr

namespace ContractCreate

/-- The fields, in the order in which they are written. -/
def fields : Fields ContractCreate :=
  (Fields.and (.optional "admin_key" Key.format) <|
   Fields.and (.optional "bytecode_file" EntityId.format) <|
   Fields.and (.starting "gas" .word64 0) <|
   Fields.and (.starting "initial_balance" .word64 0) <|
   .starting "memo" .text "").as
    (fun (adminKey, bytecodeFile, gas, initialBalance, memo) =>
      ⟨adminKey, bytecodeFile, gas, initialBalance, memo⟩)
    (fun x => (x.adminKey, x.bytecodeFile, x.gas, x.initialBalance, x.memo))

/-- The written form. -/
def format : Format ContractCreate :=
  fields.record

end ContractCreate

/-- Changes a contract. -/
structure ContractUpdate where
  contract : ContractId
  /-- The admin key that replaces the present one. -/
  adminKey : Option Key
  expiration : Option Instant
  autoRenewPeriod : Option UInt64
  proxyAccount : Option AccountId
  file : Option FileId
  memo : Option String
  deriving DecidableEq, Repr

namespace ContractUpdate

/-- The fields, in the order in which they are written. -/
def fields : Fields ContractUpdate :=
  (Fields.and (.required "contract" EntityId.format) <|
   Fields.and (.optional "admin_key" Key.format) <|
   Fields.and (.optional "expiration" Instant.format) <|
   Fields.and (.optional "auto_renew_period" .word64) <|
   Fields.and (.optional "proxy_account" EntityId.format) <|
   Fields.and (.optional "file" EntityId.format) <|
   .optional "memo" .text).as
    (fun (contract, adminKey, expiration, autoRenewPeriod, proxyAccount, file,
     memo) =>
      ⟨contract, adminKey, expiration, autoRenewPeriod, proxyAccount, file,
       memo⟩)
    (fun x => (x.contract, x.adminKey, x.expiration, x.autoRenewPeriod,
      x.proxyAccount, x.file, x.memo))

/-- The written form. -/
def format : Format ContractUpdate :=
  fields.record

/-- Whether an update changes more than the expiration. A legacy marker as the
new admin key and an empty memo change nothing; an update that changes nothing
at all counts as changing more. -/
def needsAdmin (x : ContractUpdate) : Bool :=
  x.expiration.isNone || x.adminKey.any (fun k => !k.isDeprecated) ||
    x.proxyAccount.isSome || x.autoRenewPeriod.isSome || x.file.isSome ||
    x.memo.any (fun m => !m.isEmpty)

end ContractUpdate

/-- Who receives what a deleted contract holds. -/
inductive Obtainer where
  | account (id : AccountId)
  | contract (id : ContractId)
  deriving DecidableEq, Repr

namespace Obtainer

/-- The cases of an obtainer. -/
def cases : List (Case Obtainer) :=
  [ ⟨"Account", AccountId, EntityId.format, .account,
      fun | .account id => some id | _ => none⟩,
    ⟨"Contract", ContractId, EntityId.format, .contract,
      fun | .contract id => some id | _ => none⟩ ]

/-- The written form. -/
def format : Format Obtainer :=
  Case.union cases

end Obtainer

/-- Deletes a contract, and gives what it holds to the obtainer. -/
structure ContractDelete where
  contract : ContractId
  obtainer : Option Obtainer
  deriving DecidableEq, Repr

namespace ContractDelete

/-- The fields, in the order in which they are written. -/
def fields : Fields ContractDelete :=
  (Fields.and (.required "contract" EntityId.format) <|
   .optional "obtainer" Obtainer.format).as
    (fun (contract, obtainer) => ⟨contract, obtainer⟩)
    (fun x => (x.contract, x.obtainer))

/-- The written form. -/
def format : Format ContractDelete :=
  fields.record

end ContractDelete

/-- Calls a contract. -/
structure ContractCall where
  contract : ContractId
  gas : UInt64
  amount : UInt64
  functionParameters : Bytes
  deriving DecidableEq, Repr

namespace ContractCall

/-- The fields, in the order in which they are written. -/
def fields : Fields ContractCall :=
  (Fields.and (.required "contract" EntityId.format) <|
   Fields.and (.required "gas" .word64) <|
   Fields.and (.required "amount" .word64) <|
   .required "function_parameters" (.list .byte)).as
    (fun (contract, gas, amount, functionParameters) =>
      ⟨contract, gas, amount, functionParameters⟩)
    (fun x => (x.contract, x.gas, x.amount, x.functionParameters))

/-- The written form. -/
def format : Format ContractCall :=
  fields.record

end ContractCall

end SigningOrder
