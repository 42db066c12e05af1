/-
Reports of failures. The gate before consensus answers a client with a
`ResponseCode`; the handling of a transaction at consensus keeps a finer
`SignatureStatusCode` beside it. Both are read off the reason of the failure
alone, so the two never disagree on what the client is told.
-/
import SigningOrder.Failure

namespace SigningOrder

-- ========================================================== before consensus

/-- What a client is told about a transaction that is turned away. -/
inductive ResponseCode where
  | payerAccountNotFound
  | invalidAccountId
  | invalidFileId
  | invalidContractId
  | modifyingImmutableContract
  | invalidTopicId
  | invalidAutorenewAccount
  | invalidTokenId
  | invalidCustomFeeCollector
  | invalidScheduleId
  | unresolvableRequiredSigners
  | scheduledTransactionNotInWhitelist
  | unknown
  deriving DecidableEq, Repr

namespace ResponseCode

/-- All responses. -/
def all : List ResponseCode :=
  [payerAccountNotFound, invalidAccountId, invalidFileId, invalidContractId,
    modifyingImmutableContract, invalidTopicId, invalidAutorenewAccount,
    invalidTokenId, invalidCustomFeeCollector, invalidScheduleId,
    unresolvableRequiredSigners, scheduledTransactionNotInWhitelist, unknown]

/-- The name of a response in documents. -/
def name : ResponseCode → String
  | payerAccountNotFound => "PayerAccountNotFound"
  | invalidAccountId => "InvalidAccountId"
  | invalidFileId => "InvalidFileId"
  | invalidContractId => "InvalidContractId"
  | modifyingImmutableContract => "ModifyingImmutableContract"
  | invalidTopicId => "InvalidTopicId"
  | invalidAutorenewAccount => "InvalidAutorenewAccount"
  | invalidTokenId => "InvalidTokenId"
  | invalidCustomFeeCollector => "InvalidCustomFeeCollector"
  | invalidScheduleId => "InvalidScheduleId"
  | unresolvableRequiredSigners => "UnresolvableRequiredSigners"
  | scheduledTransactionNotInWhitelist => "ScheduledTransactionNotInWhitelist"
  | unknown => "Unknown"

/-- The name of a response in messages. -/
def text : ResponseCode → String
  | payerAccountNotFound => "PAYER_ACCOUNT_NOT_FOUND"
  | invalidAccountId => "INVALID_ACCOUNT_ID"
  | invalidFileId => "INVALID_FILE_ID"
  | invalidContractId => "INVALID_CONTRACT_ID"
  | modifyingImmutableContract => "MODIFYING_IMMUTABLE_CONTRACT"
  | invalidTopicId => "INVALID_TOPIC_ID"
  | invalidAutorenewAccount => "INVALID_AUTORENEW_ACCOUNT"
  | invalidTokenId => "INVALID_TOKEN_ID"
  | invalidCustomFeeCollector => "INVALID_CUSTOM_FEE_COLLECTOR"
  | invalidScheduleId => "INVALID_SCHEDULE_ID"
  | unresolvableRequiredSigners => "UNRESOLVABLE_REQUIRED_SIGNERS"
  | scheduledTransactionNotInWhitelist =>
    "SCHEDULED_TRANSACTION_NOT_IN_WHITELIST"
  | unknown => "UNKNOWN"

/-- The response to a failure. -/
def ofReason : FailureReason → ResponseCode
  | .invalidPayerAccount => payerAccountNotFound
  | .missingAccount => invalidAccountId
  | .missingFile => invalidFileId
  | .invalidContract => invalidContractId
  | .immutableContract => modifyingImmutableContract
  | .missingTopic => invalidTopicId
  | .missingAutoRenewAccount | .invalidAutoRenewAccount =>
    invalidAutorenewAccount
  | .missingToken => invalidTokenId
  | .invalidFeeCollector => invalidCustomFeeCollector
  | .missingSchedule => invalidScheduleId
  | .unresolvableRequiredSigners => unresolvableRequiredSigners
  | .unschedulableTransaction => scheduledTransactionNotInWhitelist
  | .generalPayerError | .generalError => unknown

/-- The written form of a response. -/
def format : Format ResponseCode :=
  .enumeration all name

end ResponseCode

/-- What the gate before consensus reports. -/
structure PrecheckRejection where
  code : ResponseCode
  failure : OrderingFailure
  deriving DecidableEq, Repr

/-- The report of a failure before consensus. -/
def PrecheckRejection.ofFailure (failure : OrderingFailure) :
    PrecheckRejection :=
  ⟨.ofReason failure.reason, failure⟩

-- ============================================================== at consensus

/-- The status of the signatures of a transaction that is being handled. -/
inductive SignatureStatusCode where
  | invalidPayerId
  | generalPayerError
  | invalidAccountId
  | invalidFileId
  | invalidContractId
  | immutableContract
  | invalidTopicId
  | invalidAutoRenewAccountId
  | invalidTokenId
  | invalidFeeCollector
  | invalidScheduleId
  | unresolvableRequiredSigners
  | unschedulableTransaction
  | generalError
  deriving DecidableEq, Repr

namespace SignatureStatusCode

/-- All statuses. -/
def all : List SignatureStatusCode :=
  [invalidPayerId, generalPayerError, invalidAccountId, invalidFileId,
    invalidContractId, immutableContract, invalidTopicId,
    invalidAutoRenewAccountId, invalidTokenId, invalidFeeCollector,
    invalidScheduleId, unresolvableRequiredSigners, unschedulableTransaction,
    generalError]

/-- The name of a status. -/
def name : SignatureStatusCode → String
  | invalidPayerId => "InvalidPayerId"
  | generalPayerError => "GeneralPayerError"
  | invalidAccountId => "InvalidAccountId"
  | invalidFileId => "InvalidFileId"
  | invalidContractId => "InvalidContractId"
  | immutableContract => "ImmutableContract"
  | invalidTopicId => "InvalidTopicId"
  | invalidAutoRenewAccountId => "InvalidAutoRenewAccountId"
  | invalidTokenId => "InvalidTokenId"
  | invalidFeeCollector => "InvalidFeeCollector"
  | invalidScheduleId => "InvalidScheduleId"
  | unresolvableRequiredSigners => "UnresolvableRequiredSigners"
  | unschedulableTransaction => "UnschedulableTransaction"
  | generalError => "GeneralError"

/-- The status of a failure. -/
def ofReason : FailureReason → SignatureStatusCode
  | .invalidPayerAccount => invalidPayerId
  | .generalPayerError => generalPayerError
  | .missingAccount => invalidAccountId
  | .missingFile => invalidFileId
  | .invalidContract => invalidContractId
  | .immutableContract => immutableContract
  | .missingTopic => invalidTopicId
  | .missingAutoRenewAccount | .invalidAutoRenewAccount =>
    invalidAutoRenewAccountId
  | .missingToken => invalidTokenId
  | .invalidFeeCollector => invalidFeeCollector
  | .missingSchedule => invalidScheduleId
  | .unresolvableRequiredSigners => unresolvableRequiredSigners
  | .unschedulableTransaction => unschedulableTransaction
  | .generalError => generalError

/-- The written form of a status. -/
def format : Format SignatureStatusCode :=
  .enumeration all name

end SignatureStatusCode

/-- What is reported where a transaction is handled. -/
structure SignatureStatus where
  code : SignatureStatusCode
  /-- What a client is told. -/
  response : ResponseCode
  /-- Whether the transaction is being handled at consensus. -/
  handling : Bool
  failure : OrderingFailure
  deriving DecidableEq, Repr

namespace SignatureStatus

/-- The report of a failure at consensus. -/
def ofFailure (handling : Bool) (failure : OrderingFailure) : SignatureStatus :=
  ⟨.ofReason failure.reason, .ofReason failure.reason, handling, failure⟩

/-- The text of a status. -/
def text (s : SignatureStatus) : String :=
  s.code.name ++ " (" ++ s.response.text ++ ") during " ++
    (if s.handling then "handle" else "precheck") ++ ": " ++ s.failure.text

end SignatureStatus

end SigningOrder
