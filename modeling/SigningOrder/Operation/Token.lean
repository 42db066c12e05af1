/-
Operations on tokens, and the fees that a token charges. A token has a key for
each of the roles in its life; the operations of a role are named for what they
do.
-/
import SigningOrder.Entity.Format
import SigningOrder.Instant.Format
import SigningOrder.Key.Format

namespace SigningOrder

/-- A fee of a fixed amount, in a token where one is named. -/
structure FixedFee where
  amount : UInt64
  /-- The token of the amount; the sentinel is the token being created. -/
  denominatingToken : Option TokenId
  deriving DecidableEq, Repr

namespace FixedFee

/-- The fields, in the order in which they are written. -/
def fields : Fields FixedFee :=
  (Fields.and (.required "amount" .word64) <|
   .optional "denominating_token" EntityId.format).as
    (fun (amount, denominatingToken) => ⟨amount, denominatingToken⟩)
    (fun x => (x.amount, x.denominatingToken))

/-- The written form. -/
def format : Format FixedFee :=
  fields.record

end FixedFee

/-- A fee that is a fraction of what is transferred. -/
structure FractionalFee where
  numerator : UInt64
  denominator : UInt64
  minimum : UInt64
  /-- The most that is charged; 0 for no limit. -/
  maximum : UInt64
  netOfTransfers : Bool
  deriving DecidableEq, Repr

namespace FractionalFee

/-- The fields, in the order in which they are written. -/
def fields : Fields FractionalFee :=
  (Fields.and (.required "numerator" .word64) <|
   Fields.and (.required "denominator" .word64) <|
   Fields.and (.required "minimum" .word64) <|
   Fields.and (.required "maximum" .word64) <|
   .required "net_of_transfers" .bool).as
    (fun (numerator, denominator, minimum, maximum, netOfTransfers) =>
      ⟨numerator, denominator, minimum, maximum, netOfTransfers⟩)
    (fun x => (x.numerator, x.denominator, x.minimum, x.maximum,
      x.netOfTransfers))

/-- The written form. -/
def format : Format FractionalFee :=
  fields.record

end FractionalFee

/-- A fee on changes of the owner of unique tokens. -/
structure RoyaltyFee where
  numerator : UInt64
  denominator : UInt64
  /-- What is charged where nothing is paid in exchange. -/
  fallback : Option FixedFee
  deriving DecidableEq, Repr

namespace RoyaltyFee

/-- The fields, in the order in which they are written. -/
def fields : Fields RoyaltyFee :=
  (Fields.and (.required "numerator" .word64) <|
   Fields.and (.required "denominator" .word64) <|
   .optional "fallback" FixedFee.format).as
    (fun (numerator, denominator, fallback) =>
      ⟨numerator, denominator, fallback⟩)
    (fun x => (x.numerator, x.denominator, x.fallback))

/-- The written form. -/
def format : Format RoyaltyFee :=
  fields.record

end RoyaltyFee

/-- What a custom fee charges. -/
inductive CustomFeeKind where
  | fixed (fee : FixedFee)
  | fractional (fee : FractionalFee)
  | royalty (fee : RoyaltyFee)
  deriving DecidableEq, Repr

namespace CustomFeeKind

/-- The cases of a fee. -/
def cases : List (Case CustomFeeKind) :=
  [ ⟨"Fixed", FixedFee, FixedFee.format, .fixed,
      fun | .fixed fee => some fee | _ => none⟩,
    ⟨"Fractional", FractionalFee, FractionalFee.format, .fractional,
      fun | .fractional fee => some fee | _ => none⟩,
    ⟨"Royalty", RoyaltyFee, RoyaltyFee.format, .royalty,
      fun | .royalty fee => some fee | _ => none⟩ ]

/-- The written form. -/
def format : Format CustomFeeKind :=
  Case.union cases

end CustomFeeKind

/-- A fee and the account that collects it. -/
structure CustomFee where
  collector : AccountId
  kind : CustomFeeKind
  deriving DecidableEq, Repr

namespace CustomFee

/-- The fields, in the order in which they are written. -/
def fields : Fields CustomFee :=
  (Fields.and (.required "collector" EntityId.format) <|
   .required "kind" CustomFeeKind.format).as
    (fun (collector, kind) => ⟨collector, kind⟩)
    (fun x => (x.collector, x.kind))

/-- The written form. -/
def format : Format CustomFee :=
  fields.record

/-- A fixed fee. -/
def ofFixed (collector : AccountId) (amount : UInt64)
    (token : Option TokenId) : CustomFee :=
  ⟨collector, .fixed ⟨amount, token⟩⟩

/-- A fractional fee without bounds. -/
def ofFraction (collector : AccountId) (numerator denominator : UInt64) :
    CustomFee :=
  ⟨collector, .fractional ⟨numerator, denominator, 0, 0, false⟩⟩

/-- A royalty fee. -/
def ofRoyalty (collector : AccountId) (numerator denominator : UInt64)
    (fallback : Option FixedFee) : CustomFee :=
  ⟨collector, .royalty ⟨numerator, denominator, fallback⟩⟩

end CustomFee

/-- Creates a token. -/
structure TokenCreate where
  name : String
  symbol : String
  /-- The account that holds the first supply. -/
  treasury : AccountId
  autoRenewAccount : Option AccountId
  adminKey : Option Key
  kycKey : Option Key
  freezeKey : Option Key
  wipeKey : Option Key
  supplyKey : Option Key
  feeScheduleKey : Option Key
  customFees : List CustomFee
  freezeDefault : Bool
  deriving DecidableEq, Repr

namespace TokenCreate

/-- The fields, in the order in which they are written. -/
def fields : Fields TokenCreate :=
  (Fields.and (.starting "name" .text "") <|
   Fields.and (.starting "symbol" .text "") <|
   Fields.and (.required "treasury" EntityId.format) <|
   Fields.and (.optional "auto_renew_account" EntityId.format) <|
   Fields.and (.optional "admin_key" Key.format) <|
   Fields.and (.optional "kyc_key" Key.format) <|
   Fields.and (.optional "freeze_key" Key.format) <|
   Fields.and (.optional "wipe_key" Key.format) <|
   Fields.and (.optional "supply_key" Key.format) <|
   Fields.and (.optional "fee_schedule_key" Key.format) <|
   Fields.and (.starting "custom_fees" (.list CustomFee.format) []) <|
   .starting "freeze_default" .bool false).as
    (fun (name, symbol, treasury, autoRenewAccount, adminKey, kycKey,
     freezeKey, wipeKey, supplyKey, feeScheduleKey, customFees,
     freezeDefault) =>
      ⟨name, symbol, treasury, autoRenewAccount, adminKey, kycKey, freezeKey,
       wipeKey, supplyKey, feeScheduleKey, customFees, freezeDefault⟩)
    (fun x => (x.name, x.symbol, x.treasury, x.autoRenewAccount, x.adminKey,
      x.kycKey, x.freezeKey, x.wipeKey, x.supplyKey, x.feeScheduleKey,
      x.customFees, x.freezeDefault))

/-- The written form. -/
def format : Format TokenCreate :=
  fields.record

end TokenCreate

/-- Changes a token. -/
structure TokenUpdate where
  token : TokenId
  treasury : Option AccountId
  autoRenewAccount : Option AccountId
  adminKey : Option Key
  kycKey : Option Key
  freezeKey : Option Key
  wipeKey : Option Key
  supplyKey : Option Key
  name : Option String
  symbol : Option String
  expiration : Option Instant
  deriving DecidableEq, Repr

namespace TokenUpdate

/-- The fields, in the order in which they are written. -/
def fields : Fields TokenUpdate :=
  (Fields.and (.required "token" EntityId.format) <|
   Fields.and (.optional "treasury" EntityId.format) <|
   Fields.and (.optional "auto_renew_account" EntityId.format) <|
   Fields.and (.optional "admin_key" Key.format) <|
   Fields.and (.optional "kyc_key" Key.format) <|
   Fields.and (.optional "freeze_key" Key.format) <|
   Fields.and (.optional "wipe_key" Key.format) <|
   Fields.and (.optional "supply_key" Key.format) <|
   Fields.and (.optional "name" .text) <|
   Fields.and (.optional "symbol" .text) <|
   .optional "expiration" Instant.format).as
    (fun (token, treasury, autoRenewAccount, adminKey, kycKey, freezeKey,
     wipeKey, supplyKey, name, symbol, expiration) =>
      ⟨token, treasury, autoRenewAccount, adminKey, kycKey, freezeKey, wipeKey,
       supplyKey, name, symbol, expiration⟩)
    (fun x => (x.token, x.treasury, x.autoRenewAccount, x.adminKey, x.kycKey,
      x.freezeKey, x.wipeKey, x.supplyKey, x.name, x.symbol, x.expiration))

/-- The written form. -/
def format : Format TokenUpdate :=
  fields.record

end TokenUpdate

/-- Deletes a token. -/
structure TokenDelete where
  token : TokenId
  deriving DecidableEq, Repr

namespace TokenDelete

/-- The fields, in the order in which they are written. -/
def fields : Fields TokenDelete :=
  (Fields.required "token" EntityId.format).as (fun a => ⟨a⟩) (fun x => x.token)

/-- The written form. -/
def format : Format TokenDelete :=
  fields.record

end TokenDelete

/-- Changes what an account may do with a token: freezes or unfreezes it, or
grants or revokes its standing. -/
structure TokenAccountOp where
  token : TokenId
  account : AccountId
  deriving DecidableEq, Repr

namespace TokenAccountOp

/-- The fields, in the order in which they are written. -/
def fields : Fields TokenAccountOp :=
  (Fields.and (.required "token" EntityId.format) <|
   .required "account" EntityId.format).as
    (fun (token, account) => ⟨token, account⟩)
    (fun x => (x.token, x.account))

/-- The written form. -/
def format : Format TokenAccountOp :=
  fields.record

end TokenAccountOp

/-- Takes units of a token out of an account. -/
structure TokenWipe where
  token : TokenId
  account : AccountId
  amount : UInt64
  serials : List UInt64
  deriving DecidableEq, Repr

namespace TokenWipe

/-- The fields, in the order in which they are written. -/
def fields : Fields TokenWipe :=
  (Fields.and (.required "token" EntityId.format) <|
   Fields.and (.required "account" EntityId.format) <|
   Fields.and (.required "amount" .word64) <|
   .required "serials" (.list .word64)).as
    (fun (token, account, amount, serials) => ⟨token, account, amount, serials⟩)
    (fun x => (x.token, x.account, x.amount, x.serials))

/-- The written form. -/
def format : Format TokenWipe :=
  fields.record

end TokenWipe

/-- Adds to the supply of a token. -/
structure TokenMint where
  token : TokenId
  amount : UInt64
  /-- The data of each unique token that is added. -/
  metadata : List Bytes
  deriving DecidableEq, Repr

namespace TokenMint

/-- The fields, in the order in which they are written. -/
def fields : Fields TokenMint :=
  (Fields.and (.required "token" EntityId.format) <|
   Fields.and (.required "amount" .word64) <|
   .required "metadata" (.list (.list .byte))).as
    (fun (token, amount, metadata) => ⟨token, amount, metadata⟩)
    (fun x => (x.token, x.amount, x.metadata))

/-- The written form. -/
def format : Format TokenMint :=
  fields.record

end TokenMint

/-- Takes from the supply of a token. -/
structure TokenBurn where
  token : TokenId
  amount : UInt64
  serials : List UInt64
  deriving DecidableEq, Repr

namespace TokenBurn

/-- The fields, in the order in which they are written. -/
def fields : Fields TokenBurn :=
  (Fields.and (.required "token" EntityId.format) <|
   Fields.and (.required "amount" .word64) <|
   .required "serials" (.list .word64)).as
    (fun (token, amount, serials) => ⟨token, amount, serials⟩)
    (fun x => (x.token, x.amount, x.serials))

/-- The written form. -/
def format : Format TokenBurn :=
  fields.record

end TokenBurn

/-- Begins or ends the association of tokens with an account. -/
structure TokenAssociation where
  account : AccountId
  tokens : List TokenId
  deriving DecidableEq, Repr

namespace TokenAssociation

/-- The fields, in the order in which they are written. -/
def fields : Fields TokenAssociation :=
  (Fields.and (.required "account" EntityId.format) <|
   .required "tokens" (.list EntityId.format)).as
    (fun (account, tokens) => ⟨account, tokens⟩)
    (fun x => (x.account, x.tokens))

/-- The written form. -/
def format : Format TokenAssociation :=
  fields.record

end TokenAssociation

/-- Replaces the fees of a token. -/
structure TokenFeeScheduleUpdate where
  token : TokenId
  customFees : List CustomFee
  deriving DecidableEq, Repr

namespace TokenFeeScheduleUpdate

/-- The fields, in the order in which they are written. -/
def fields : Fields TokenFeeScheduleUpdate :=
  (Fields.and (.required "token" EntityId.format) <|
   .required "custom_fees" (.list CustomFee.format)).as
    (fun (token, customFees) => ⟨token, customFees⟩)
    (fun x => (x.token, x.customFees))

/-- The written form. -/
def format : Format TokenFeeScheduleUpdate :=
  fields.record

end TokenFeeScheduleUpdate

end SigningOrder
