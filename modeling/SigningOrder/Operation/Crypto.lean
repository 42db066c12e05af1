/-
Operations on accounts: creating, updating and deleting them, and moving
balances between them. A transfer lists what is taken from and given to
accounts; its order is that of the submission.
-/
import SigningOrder.Entity.Format
import SigningOrder.Instant.Format
import SigningOrder.Key.Format

namespace SigningOrder

/-- Creates an account. -/
structure CryptoCreate where
  /-- The key of the new account. -/
  key : Key
  /-- Whether the new account must sign transfers that it receives. -/
  receiverSigRequired : Bool
  initialBalance : UInt64
  deriving DecidableEq, Repr

namespace CryptoCreate

/-- The fields, in the order in which they are written. -/
def fields : Fields CryptoCreate :=
  (Fields.and (.required "key" Key.format) <|
   Fields.and (.starting "receiver_sig_required" .bool false) <|
   .starting "initial_balance" .word64 0).as
    (fun (key, receiverSigRequired, initialBalance) =>
      ⟨key, receiverSigRequired, initialBalance⟩)
    (fun x => (x.key, x.receiverSigRequired, x.initialBalance))

/-- The written form. -/
def format : Format CryptoCreate :=
  fields.record

end CryptoCreate

/-- A change to the balance of an account. -/
structure AccountAmount where
  account : AccountId
  /-- What is given; less than 0 where it is taken. -/
  amount : Int64
  deriving DecidableEq, Repr

namespace AccountAmount

/-- The fields, in the order in which they are written. -/
def fields : Fields AccountAmount :=
  (Fields.and (.required "account" EntityId.format) <|
   .required "amount" .int64).as
    (fun (account, amount) => ⟨account, amount⟩)
    (fun x => (x.account, x.amount))

/-- The written form. -/
def format : Format AccountAmount :=
  fields.record

end AccountAmount

/-- A change of the owner of one unique token. -/
structure NftTransfer where
  sender : AccountId
  receiver : AccountId
  serial : UInt64
  deriving DecidableEq, Repr

namespace NftTransfer

/-- The fields, in the order in which they are written. -/
def fields : Fields NftTransfer :=
  (Fields.and (.required "sender" EntityId.format) <|
   Fields.and (.required "receiver" EntityId.format) <|
   .required "serial" .word64).as
    (fun (sender, receiver, serial) => ⟨sender, receiver, serial⟩)
    (fun x => (x.sender, x.receiver, x.serial))

/-- The written form. -/
def format : Format NftTransfer :=
  fields.record

end NftTransfer

/-- Changes that concern one token. -/
structure TokenTransferList where
  token : TokenId
  transfers : List AccountAmount
  nftTransfers : List NftTransfer
  deriving DecidableEq, Repr

namespace TokenTransferList

/-- The fields, in the order in which they are written. -/
def fields : Fields TokenTransferList :=
  (Fields.and (.required "token" EntityId.format) <|
   Fields.and (.starting "transfers" (.list AccountAmount.format) []) <|
   .starting "nft_transfers" (.list NftTransfer.format) []).as
    (fun (token, transfers, nftTransfers) => ⟨token, transfers, nftTransfers⟩)
    (fun x => (x.token, x.transfers, x.nftTransfers))

/-- The written form. -/
def format : Format TokenTransferList :=
  fields.record

end TokenTransferList

/-- Moves balances between accounts. -/
structure CryptoTransfer where
  /-- Changes in the ledger's own currency. -/
  transfers : List AccountAmount
  /-- Changes in tokens, token by token. -/
  tokenTransfers : List TokenTransferList
  deriving DecidableEq, Repr

namespace CryptoTransfer

/-- The fields, in the order in which they are written. -/
def fields : Fields CryptoTransfer :=
  (Fields.and (.starting "transfers" (.list AccountAmount.format) []) <|
   .starting "token_transfers" (.list TokenTransferList.format) []).as
    (fun (transfers, tokenTransfers) => ⟨transfers, tokenTransfers⟩)
    (fun x => (x.transfers, x.tokenTransfers))

/-- The written form. -/
def format : Format CryptoTransfer :=
  fields.record

end CryptoTransfer

/-- Changes an account. -/
structure CryptoUpdate where
  account : AccountId
  /-- The key that replaces the present one. -/
  key : Option Key
  receiverSigRequired : Option Bool
  expiration : Option Instant
  memo : Option String
  deriving DecidableEq, Repr

namespace CryptoUpdate

/-- The fields, in the order in which they are written. -/
def fields : Fields CryptoUpdate :=
  (Fields.and (.required "account" EntityId.format) <|
   Fields.and (.optional "key" Key.format) <|
   Fields.and (.optional "receiver_sig_required" .bool) <|
   Fields.and (.optional "expiration" Instant.format) <|
   .optional "memo" .text).as
    (fun (account, key, receiverSigRequired, expiration, memo) =>
      ⟨account, key, receiverSigRequired, expiration, memo⟩)
    (fun x => (x.account, x.key, x.receiverSigRequired, x.expiration, x.memo))

/-- The written form. -/
def format : Format CryptoUpdate :=
  fields.record

end CryptoUpdate

/-- Deletes an account, and gives what it holds to another. -/
structure CryptoDelete where
  account : AccountId
  transferAccount : AccountId
  deriving DecidableEq, Repr

namespace CryptoDelete

/-- The fields, in the order in which they are written. -/
def fields : Fields CryptoDelete :=
  (Fields.and (.required "account" EntityId.format) <|
   .required "transfer_account" EntityId.format).as
    (fun (account, transferAccount) => ⟨account, transferAccount⟩)
    (fun x => (x.account, x.transferAccount))

/-- The written form. -/
def format : Format CryptoDelete :=
  fields.record

end CryptoDelete

end SigningOrder
