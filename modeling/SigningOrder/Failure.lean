/-
Why a signing order cannot be given. Every way in which resolution stops short
has one `FailureReason`, with a number, a name and a hint of its own; an
`OrderingFailure` adds the entity to blame and the transaction. Failures are
values that the caller turns into a report (`Report.lean`).
-/
import SigningOrder.Entity.Text
import SigningOrder.Format
import SigningOrder.Transaction.Id

namespace SigningOrder

/-- Why the keys of a transaction cannot be named. -/
inductive FailureReason where
  /-- The payer does not exist. -/
  | invalidPayerAccount
  /-- The payer could not be looked up. -/
  | generalPayerError
  | missingAccount
  | missingFile
  | missingTopic
  | missingToken
  | missingSchedule
  /-- The auto-renew account of a topic does not exist. -/
  | missingAutoRenewAccount
  | invalidContract
  /-- The contract has no admin key that could sign. -/
  | immutableContract
  /-- The collector of a fee does not exist. -/
  | invalidFeeCollector
  /-- The auto-renew account of a token does not exist. -/
  | invalidAutoRenewAccount
  /-- The keys of the transaction inside of a schedule cannot be named. -/
  | unresolvableRequiredSigners
  /-- A schedule may not hold the transaction. -/
  | unschedulableTransaction
  /-- An entity other than the payer could not be looked up. -/
  | generalError
  deriving DecidableEq, Repr

namespace FailureReason

/-- All reasons, in the order of their numbers. -/
def all : List FailureReason :=
  [invalidPayerAccount, generalPayerError, missingAccount, missingFile,
    missingTopic, missingToken, missingSchedule, missingAutoRenewAccount,
    invalidContract, immutableContract, invalidFeeCollector,
    invalidAutoRenewAccount, unresolvableRequiredSigners,
    unschedulableTransaction, generalError]

/-- The name of a reason in documents. -/
def name : FailureReason → String
  | invalidPayerAccount => "InvalidPayerAccount"
  | generalPayerError => "GeneralPayerError"
  | missingAccount => "MissingAccount"
  | missingFile => "MissingFile"
  | missingTopic => "MissingTopic"
  | missingToken => "MissingToken"
  | missingSchedule => "MissingSchedule"
  | missingAutoRenewAccount => "MissingAutoRenewAccount"
  | invalidContract => "InvalidContract"
  | immutableContract => "ImmutableContract"
  | invalidFeeCollector => "InvalidFeeCollector"
  | invalidAutoRenewAccount => "InvalidAutoRenewAccount"
  | unresolvableRequiredSigners => "UnresolvableRequiredSigners"
  | unschedulableTransaction => "UnschedulableTransaction"
  | generalError => "GeneralError"

/-- The number of a reason; its hundreds say which part of the work failed. -/
def code : FailureReason → Nat
  | invalidPayerAccount => 100
  | generalPayerError => 101
  | missingAccount => 200
  | missingFile => 201
  | missingTopic => 202
  | missingToken => 203
  | missingSchedule => 204
  | missingAutoRenewAccount => 205
  | invalidContract => 300
  | immutableContract => 301
  | invalidFeeCollector => 302
  | invalidAutoRenewAccount => 303
  | unresolvableRequiredSigners => 400
  | unschedulableTransaction => 401
  | generalError => 900

/-- The reason of a number. -/
def ofCode? (code : Nat) : Option FailureReason :=
  all.find? fun reason => reason.code == code

/-- The name of a reason in messages. -/
def text : FailureReason → String
  | invalidPayerAccount => "INVALID_PAYER_ACCOUNT"
  | generalPayerError => "GENERAL_PAYER_ERROR"
  | missingAccount => "MISSING_ACCOUNT"
  | missingFile => "MISSING_FILE"
  | missingTopic => "MISSING_TOPIC"
  | missingToken => "INVALID_TOKEN_ID"
  | missingSchedule => "INVALID_SCHEDULE_ID"
  | missingAutoRenewAccount => "MISSING_AUTO_RENEW_ACCOUNT"
  | invalidContract => "INVALID_CONTRACT"
  | immutableContract => "IMMUTABLE_CONTRACT"
  | invalidFeeCollector => "INVALID_FEE_COLLECTOR"
  | invalidAutoRenewAccount => "INVALID_AUTO_RENEW_ACCOUNT_ID"
  | unresolvableRequiredSigners => "UNRESOLVABLE_REQUIRED_SIGNERS"
  | unschedulableTransaction => "SCHEDULED_TRANSACTION_NOT_IN_WHITELIST"
  | generalError => "GENERAL_ERROR"

/-- Whether the payer is at fault. -/
def isPayerFailure : FailureReason → Bool
  | invalidPayerAccount | generalPayerError => true
  | _ => false

/-- Whether a look-up went wrong, rather than the transaction. -/
def isGeneral : FailureReason → Bool
  | generalPayerError | generalError => true
  | _ => false

/-- What the submitter may do about it. -/
def suggestedAction : FailureReason → String
  | invalidPayerAccount => "Pay with an existing, undeleted account."
  | generalPayerError | generalError =>
    "Retry later. The node could not read ledger state for this transaction."
  | missingAccount => "Reference only existing, undeleted accounts."
  | missingFile => "Verify the file id; the file may have been deleted."
  | missingTopic => "Verify the topic id; the topic may have been deleted."
  | missingToken => "Verify the token id; the token may have been deleted."
  | missingSchedule =>
    "Verify the schedule id; the schedule may have been deleted or executed."
  | missingAutoRenewAccount | invalidAutoRenewAccount =>
    "Name an existing account as the auto-renew account."
  | invalidContract =>
    "Verify the contract id; the contract may have been deleted."
  | immutableContract =>
    "The contract has no admin key; only its expiry can be extended."
  | invalidFeeCollector => "Name existing accounts as custom fee collectors."
  | unresolvableRequiredSigners =>
    "Fix the scheduled transaction so every entity it references exists."
  | unschedulableTransaction => "Submit schedule operations directly."

/-- The written form of a reason. -/
def format : Format FailureReason :=
  .enumeration all name

end FailureReason

/-- The reason that says that an entity of a kind is absent. -/
def EntityKind.absence : EntityKind → FailureReason
  | account => .missingAccount
  | file => .missingFile
  | contract => .invalidContract
  | topic => .missingTopic
  | token => .missingToken
  | schedule => .missingSchedule

/-- A failure to give the order of a transaction. -/
structure OrderingFailure where
  reason : FailureReason
  /-- The entity to blame, where there is one. -/
  entity : Option EntityRef
  txnId : TransactionId
  deriving DecidableEq, Repr

namespace OrderingFailure

/-- The text of a failure. -/
def text (f : OrderingFailure) : String :=
  f.reason.text ++ " for transaction " ++ f.txnId.text ++
    match f.entity with
    | some e => " (" ++ e.text ++ ")"
    | none => ""

end OrderingFailure

end SigningOrder
