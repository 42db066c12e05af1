/-
Operations on topics, to which messages are submitted.
-/
import SigningOrder.Entity.Format
import SigningOrder.Instant.Format
import SigningOrder.Key.Format

namespace SigningOrder

/-- Creates a topic; without an admin key it cannot be changed, and without a
submit key anyone may submit to it. -/
structure TopicCreate where
  adminKey : Option Key
  submitKey : Option Key
  autoRenewAccount : Option AccountId
  autoRenewPeriod : UInt64
  memo : String
  deriving DecidableEq, Repr

namespace TopicCreate

/-- The fields, in the order in which they are written. -/
def fields : Fields TopicCreate :=
  (Fields.and (.optional "admin_key" Key.format) <|
   Fields.and (.optional "submit_key" Key.format) <|
   Fields.and (.optional "auto_renew_account" EntityId.format) <|
   Fields.and (.starting "auto_renew_period" .word64 7776000) <|
   .starting "memo" .text "").as
    (fun (adminKey, submitKey, autoRenewAccount, autoRenewPeriod, memo) =>
      ⟨adminKey, submitKey, autoRenewAccount, autoRenewPeriod, memo⟩)
    (fun x => (x.adminKey, x.submitKey, x.autoRenewAccount, x.autoRenewPeriod,
      x.memo))

/-- The written form. -/
def format : Format TopicCreate :=
  fields.record

end TopicCreate

/-- Changes a topic. -/
structure TopicUpdate where
  topic : TopicId
  adminKey : Option Key
  submitKey : Option Key
  memo : Option String
  expiration : Option Instant
  autoRenewPeriod : Option UInt64
  /-- The new auto-renew account; the sentinel clears it. -/
  autoRenewAccount : Option AccountId
  deriving DecidableEq, Repr

namespace TopicUpdate

/-- The fields, in the order in which they are written. -/
def fields : Fields TopicUpdate :=
  (Fields.and (.required "topic" EntityId.format) <|
   Fields.and (.optional "admin_key" Key.format) <|
   Fields.and (.optional "submit_key" Key.format) <|
   Fields.and (.optional "memo" .text) <|
   Fields.and (.optional "expiration" Instant.format) <|
   Fields.and (.optional "auto_renew_period" .word64) <|
   .optional "auto_renew_account" EntityId.format).as
    (fun (topic, adminKey, submitKey, memo, expiration, autoRenewPeriod,
     autoRenewAccount) =>
      ⟨topic, adminKey, submitKey, memo, expiration, autoRenewPeriod,
       autoRenewAccount⟩)
    (fun x => (x.topic, x.adminKey, x.submitKey, x.memo, x.expiration,
      x.autoRenewPeriod, x.autoRenewAccount))

/-- The written form. -/
def format : Format TopicUpdate :=
  fields.record

/-- Whether an update extends the expiration and does nothing else. -/
def expiryOnly (x : TopicUpdate) : Bool :=
  x.expiration.isSome && x.adminKey.isNone && x.submitKey.isNone &&
    x.memo.isNone && x.autoRenewPeriod.isNone && x.autoRenewAccount.isNone

end TopicUpdate

/-- Deletes a topic. -/
structure TopicDelete where
  topic : TopicId
  deriving DecidableEq, Repr

namespace TopicDelete

/-- The fields, in the order in which they are written. -/
def fields : Fields TopicDelete :=
  (Fields.required "topic" EntityId.format).as (fun a => ⟨a⟩) (fun x => x.topic)

/-- The written form. -/
def format : Format TopicDelete :=
  fields.record

end TopicDelete

/-- Submits a message to a topic. -/
structure SubmitMessage where
  topic : TopicId
  message : Bytes
  deriving DecidableEq, Repr

namespace SubmitMessage

/-- The fields, in the order in which they are written. -/
def fields : Fields SubmitMessage :=
  (Fields.and (.required "topic" EntityId.format) <|
   .required "message" (.list .byte)).as
    (fun (topic, message) => ⟨topic, message⟩)
    (fun x => (x.topic, x.message))

/-- The written form. -/
def format : Format SubmitMessage :=
  fields.record

end SubmitMessage

end SigningOrder
