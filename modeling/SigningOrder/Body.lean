/-
Bodies of transactions: one of thirty-five operations. The body that creates a
schedule holds another body, so bodies nest; their written form is built level
by level, each level reading the body inside with the level below. The level at
the bottom is never reached: a body of so many levels needs at least as many
bytes, or as high a document.
-/
import SigningOrder.Operation.Contract
import SigningOrder.Operation.Crypto
import SigningOrder.Operation.File
import SigningOrder.Operation.Schedule
import SigningOrder.Operation.System
import SigningOrder.Operation.Token
import SigningOrder.Operation.Topic

namespace SigningOrder

/-- What a transaction does. -/
inductive Body where
  | cryptoCreate (op : CryptoCreate)
  | cryptoTransfer (op : CryptoTransfer)
  | cryptoUpdate (op : CryptoUpdate)
  | cryptoDelete (op : CryptoDelete)
  | fileCreate (op : FileCreate)
  | fileAppend (op : FileAppend)
  | fileUpdate (op : FileUpdate)
  | fileDelete (op : FileDelete)
  | contractCreate (op : ContractCreate)
  | contractUpdate (op : ContractUpdate)
  | contractDelete (op : ContractDelete)
  | contractCall (op : ContractCall)
  | topicCreate (op : TopicCreate)
  | topicUpdate (op : TopicUpdate)
  | topicDelete (op : TopicDelete)
  | submitMessage (op : SubmitMessage)
  | tokenCreate (op : TokenCreate)
  | tokenUpdate (op : TokenUpdate)
  | tokenDelete (op : TokenDelete)
  | tokenFreeze (op : TokenAccountOp)
  | tokenUnfreeze (op : TokenAccountOp)
  | tokenGrantKyc (op : TokenAccountOp)
  | tokenRevokeKyc (op : TokenAccountOp)
  | tokenWipe (op : TokenWipe)
  | tokenMint (op : TokenMint)
  | tokenBurn (op : TokenBurn)
  | tokenAssociate (op : TokenAssociation)
  | tokenDissociate (op : TokenAssociation)
  | tokenFeeScheduleUpdate (op : TokenFeeScheduleUpdate)
  /-- Creates a schedule that holds a transaction. -/
  | scheduleCreate (scheduled : Body) (terms : ScheduleTerms)
  | scheduleSign (op : ScheduleSign)
  | scheduleDelete (op : ScheduleDelete)
  | systemDelete (op : SystemDelete)
  | systemUndelete (op : SystemUndelete)
  | freeze (op : Freeze)
  deriving DecidableEq, Repr

namespace Body

/-- The name of the operation. -/
def kindName : Body → String
  | cryptoCreate _ => "CryptoCreate"
  | cryptoTransfer _ => "CryptoTransfer"
  | cryptoUpdate _ => "CryptoUpdate"
  | cryptoDelete _ => "CryptoDelete"
  | fileCreate _ => "FileCreate"
  | fileAppend _ => "FileAppend"
  | fileUpdate _ => "FileUpdate"
  | fileDelete _ => "FileDelete"
  | contractCreate _ => "ContractCreate"
  | contractUpdate _ => "ContractUpdate"
  | contractDelete _ => "ContractDelete"
  | contractCall _ => "ContractCall"
  | topicCreate _ => "TopicCreate"
  | topicUpdate _ => "TopicUpdate"
  | topicDelete _ => "TopicDelete"
  | submitMessage _ => "SubmitMessage"
  | tokenCreate _ => "TokenCreate"
  | tokenUpdate _ => "TokenUpdate"
  | tokenDelete _ => "TokenDelete"
  | tokenFreeze _ => "TokenFreeze"
  | tokenUnfreeze _ => "TokenUnfreeze"
  | tokenGrantKyc _ => "TokenGrantKyc"
  | tokenRevokeKyc _ => "TokenRevokeKyc"
  | tokenWipe _ => "TokenWipe"
  | tokenMint _ => "TokenMint"
  | tokenBurn _ => "TokenBurn"
  | tokenAssociate _ => "TokenAssociate"
  | tokenDissociate _ => "TokenDissociate"
  | tokenFeeScheduleUpdate _ => "TokenFeeScheduleUpdate"
  | scheduleCreate _ _ => "ScheduleCreate"
  | scheduleSign _ => "ScheduleSign"
  | scheduleDelete _ => "ScheduleDelete"
  | systemDelete _ => "SystemDelete"
  | systemUndelete _ => "SystemUndelete"
  | freeze _ => "Freeze"

/-- Whether a schedule may hold the transaction; one that acts on a schedule
may not be. -/
def isSchedulable : Body → Bool
  | scheduleCreate _ _ => false
  | scheduleSign _ => false
  | scheduleDelete _ => false
  | _ => true

/-- How many bodies are nested, this one included. -/
def levels : Body → Nat
  | scheduleCreate scheduled _ => levels scheduled + 1
  | _ => 1

/-- The fields of the body that creates a schedule. -/
def scheduleFields (inner : Format Body) : Fields (Body × ScheduleTerms) :=
  Fields.and (.required "scheduled" inner) ScheduleTerms.fields

/-- The cases of a body, where the body inside of another has the given
format. -/
def cases (inner : Format Body) : List (Case Body) :=
  [ ⟨"CryptoCreate", CryptoCreate, CryptoCreate.format, .cryptoCreate,
      fun | .cryptoCreate op => some op | _ => none⟩,
    ⟨"CryptoTransfer", CryptoTransfer, CryptoTransfer.format, .cryptoTransfer,
      fun | .cryptoTransfer op => some op | _ => none⟩,
    ⟨"CryptoUpdate", CryptoUpdate, CryptoUpdate.format, .cryptoUpdate,
      fun | .cryptoUpdate op => some op | _ => none⟩,
    ⟨"CryptoDelete", CryptoDelete, CryptoDelete.format, .cryptoDelete,
      fun | .cryptoDelete op => some op | _ => none⟩,
    ⟨"FileCreate", FileCreate, FileCreate.format, .fileCreate,
      fun | .fileCreate op => some op | _ => none⟩,
    ⟨"FileAppend", FileAppend, FileAppend.format, .fileAppend,
      fun | .fileAppend op => some op | _ => none⟩,
    ⟨"FileUpdate", FileUpdate, FileUpdate.format, .fileUpdate,
      fun | .fileUpdate op => some op | _ => none⟩,
    ⟨"FileDelete", FileDelete, FileDelete.format, .fileDelete,
      fun | .fileDelete op => some op | _ => none⟩,
    ⟨"ContractCreate", ContractCreate, ContractCreate.format, .contractCreate,
      fun | .contractCreate op => some op | _ => none⟩,
    ⟨"ContractUpdate", ContractUpdate, ContractUpdate.format, .contractUpdate,
      fun | .contractUpdate op => some op | _ => none⟩,
    ⟨"ContractDelete", ContractDelete, ContractDelete.format, .contractDelete,
      fun | .contractDelete op => some op | _ => none⟩,
    ⟨"ContractCall", ContractCall, ContractCall.format, .contractCall,
      fun | .contractCall op => some op | _ => none⟩,
    ⟨"TopicCreate", TopicCreate, TopicCreate.format, .topicCreate,
      fun | .topicCreate op => some op | _ => none⟩,
    ⟨"TopicUpdate", TopicUpdate, TopicUpdate.format, .topicUpdate,
      fun | .topicUpdate op => some op | _ => none⟩,
    ⟨"TopicDelete", TopicDelete, TopicDelete.format, .topicDelete,
      fun | .topicDelete op => some op | _ => none⟩,
    ⟨"SubmitMessage", SubmitMessage, SubmitMessage.format, .submitMessage,
      fun | .submitMessage op => some op | _ => none⟩,
    ⟨"TokenCreate", TokenCreate, TokenCreate.format, .tokenCreate,
      fun | .tokenCreate op => some op | _ => none⟩,
    ⟨"TokenUpdate", TokenUpdate, TokenUpdate.format, .tokenUpdate,
      fun | .tokenUpdate op => some op | _ => none⟩,
    ⟨"TokenDelete", TokenDelete, TokenDelete.format, .tokenDelete,
      fun | .tokenDelete op => some op | _ => none⟩,
    ⟨"TokenFreeze", TokenAccountOp, TokenAccountOp.format, .tokenFreeze,
      fun | .tokenFreeze op => some op | _ => none⟩,
    ⟨"TokenUnfreeze", TokenAccountOp, TokenAccountOp.format, .tokenUnfreeze,
      fun | .tokenUnfreeze op => some op | _ => none⟩,
    ⟨"TokenGrantKyc", TokenAccountOp, TokenAccountOp.format, .tokenGrantKyc,
      fun | .tokenGrantKyc op => some op | _ => none⟩,
    ⟨"TokenRevokeKyc", TokenAccountOp, TokenAccountOp.format, .tokenRevokeKyc,
      fun | .tokenRevokeKyc op => some op | _ => none⟩,
    ⟨"TokenWipe", TokenWipe, TokenWipe.format, .tokenWipe,
      fun | .tokenWipe op => some op | _ => none⟩,
    ⟨"TokenMint", TokenMint, TokenMint.format, .tokenMint,
      fun | .tokenMint op => some op | _ => none⟩,
    ⟨"TokenBurn", TokenBurn, TokenBurn.format, .tokenBurn,
      fun | .tokenBurn op => some op | _ => none⟩,
    ⟨"TokenAssociate", TokenAssociation, TokenAssociation.format,
      .tokenAssociate,
      fun | .tokenAssociate op => some op | _ => none⟩,
    ⟨"TokenDissociate", TokenAssociation, TokenAssociation.format,
      .tokenDissociate,
      fun | .tokenDissociate op => some op | _ => none⟩,
    ⟨"TokenFeeScheduleUpdate", TokenFeeScheduleUpdate,
      TokenFeeScheduleUpdate.format, .tokenFeeScheduleUpdate,
      fun | .tokenFeeScheduleUpdate op => some op | _ => none⟩,
    ⟨"ScheduleCreate", Body × ScheduleTerms, (scheduleFields inner).record,
      fun (scheduled, terms) => .scheduleCreate scheduled terms,
      fun
        | .scheduleCreate scheduled terms => some (scheduled, terms)
        | _ => none⟩,
    ⟨"ScheduleSign", ScheduleSign, ScheduleSign.format, .scheduleSign,
      fun | .scheduleSign op => some op | _ => none⟩,
    ⟨"ScheduleDelete", ScheduleDelete, ScheduleDelete.format, .scheduleDelete,
      fun | .scheduleDelete op => some op | _ => none⟩,
    ⟨"SystemDelete", SystemDelete, SystemDelete.format, .systemDelete,
      fun | .systemDelete op => some op | _ => none⟩,
    ⟨"SystemUndelete", SystemUndelete, SystemUndelete.format, .systemUndelete,
      fun | .systemUndelete op => some op | _ => none⟩,
    ⟨"Freeze", Freeze, Freeze.format, .freeze,
      fun | .freeze op => some op | _ => none⟩ ]

/-- The written form of bodies of at most so many levels. -/
def formatAt : (levels : Nat) → Format Body
  | 0 =>
    { fits := fun _ => False
      encode := fun _ => []
      decode := fun _ => .error .endOfInput
      write := fun _ => .null
      read := fun _ => .error .malformed }
  | n + 1 =>
    Case.union <| cases
      { fits := fun b => (formatAt n).fits b
        encode := fun b => (formatAt n).encode b
        decode := fun bytes => (formatAt n).decode bytes
        write := fun b => (formatAt n).write b
        read := fun d => (formatAt n).read d }

/-- The written form of a body. -/
def format : Format Body where
  fits b := (formatAt b.levels).fits b
  encode b := (formatAt b.levels).encode b
  decode bytes := (formatAt (bytes.length + 1)).decode bytes
  write b := (formatAt b.levels).write b
  read d := (formatAt d.depth).read d

end Body

end SigningOrder
