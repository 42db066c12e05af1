/-
The configuration: the well-known entities, and the accounts that need not sign
as payers. `Config/Validation.lean` says which configurations are valid, and
`Config/Load.lean` reads one from a text.
-/
import SigningOrder.Config.WellKnown

namespace SigningOrder

/-- The payers whose signatures are waived. -/
structure WaiverConfig where
  /-- Numbers of accounts in the shard and realm of the network. -/
  waivedPayerAccounts : List UInt64
  deriving DecidableEq, Repr

namespace WaiverConfig

/-- The fields, in the order in which they are written. -/
def fields : Fields WaiverConfig :=
  (Fields.defaulted "waived_payer_accounts" (.list .word64) []).as
    (fun waivedPayerAccounts => ⟨waivedPayerAccounts⟩)
    (fun x => x.waivedPayerAccounts)

/-- The written form. -/
def format : Format WaiverConfig :=
  fields.record

end WaiverConfig

/-- The whole configuration. -/
structure SigningConfig where
  entities : EntityNumbers
  waivers : WaiverConfig
  deriving DecidableEq, Repr

namespace SigningConfig

/-- The fields, in the order in which they are written. -/
def fields : Fields SigningConfig :=
  (Fields.and
      (.defaulted "entities" EntityNumbers.format EntityNumbers.usual) <|
   .defaulted "waivers" WaiverConfig.format ⟨[]⟩).as
    (fun (entities, waivers) => ⟨entities, waivers⟩)
    (fun x => (x.entities, x.waivers))

/-- The written form. -/
def format : Format SigningConfig :=
  fields.record

/-- The usual configuration. -/
def usual : SigningConfig :=
  ⟨.usual, ⟨[]⟩⟩

end SigningConfig

end SigningOrder
