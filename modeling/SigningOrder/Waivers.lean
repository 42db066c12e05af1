/-
Signatures that are waived. A waiver drops a key that resolution would require;
it is decided by the transaction alone. `Waivers.ofConfig` waives for the
payers that the configuration lists and for the operations that the rules for
system entities allow.
-/
import SigningOrder.Policy

namespace SigningOrder

/-- Which keys of a transaction need not sign. -/
structure Waivers where
  /-- The key of the payer. -/
  payer : Transaction → Bool
  /-- The keys of a file that is appended to. -/
  appendedFile : Transaction → Bool
  /-- The present keys of a file that is updated. -/
  targetFile : Transaction → Bool
  /-- The new keys of a file that is updated. -/
  newFile : Transaction → Bool
  /-- The present key of an account that is updated. -/
  targetAccount : Transaction → Bool
  /-- The new key of an account that is updated. -/
  newAccount : Transaction → Bool

namespace Waivers

/-- Nothing is waived. -/
def nothing : Waivers where
  payer _ := false
  appendedFile _ := false
  targetFile _ := false
  newFile _ := false
  targetAccount _ := false
  newAccount _ := false

/-- The waivers of a configuration. The new key of the treasury must always
sign. -/
def ofConfig (config : SigningConfig) : Waivers where
  payer t :=
    t.payer ∈ config.waivers.waivedPayerAccounts.map config.entities.account
  appendedFile t :=
    match t.body with
    | .fileAppend _ => (config.entities.check t).isAuthorized
    | _ => false
  targetFile t :=
    match t.body with
    | .fileUpdate _ => (config.entities.check t).isAuthorized
    | _ => false
  newFile t :=
    match t.body with
    | .fileUpdate _ => (config.entities.check t).isAuthorized
    | _ => false
  targetAccount t :=
    match t.body with
    | .cryptoUpdate _ => (config.entities.check t).isAuthorized
    | _ => false
  newAccount t :=
    match t.body with
    | .cryptoUpdate op =>
      (config.entities.check t).isAuthorized
        && !config.entities.isTreasury op.account
    | _ => false

end Waivers

end SigningOrder
