/-
The law of the types that are written, but for bodies of transactions, which
nest. Each is put together from parts that keep the law: a record keeps it
because its constructor and its projections are inverse to each other, a union
because its values are told apart by their constructors, and an enumeration
because its list has no more values than there are places to write.

Where nothing but numbers is written every value fits; the lemmas that say so
of enumerations and unions stand beside their instances.
-/
import SigningOrder.Config
import SigningOrder.Operation.Contract
import SigningOrder.Operation.Crypto
import SigningOrder.Operation.File
import SigningOrder.Operation.Schedule
import SigningOrder.Operation.System
import SigningOrder.Operation.Token
import SigningOrder.Operation.Topic
import SigningOrder.Proofs.Instant.Text
import SigningOrder.Proofs.Key.Format
import SigningOrder.Report

namespace SigningOrder

-- ============================================================= identifiers

instance {kind : EntityKind} : (@EntityId.fields kind).Lawful :=
  Fields.Lawful.as (fun _ => rfl) (fun _ => rfl)

instance {kind : EntityKind} : (@EntityId.format kind).Lawful :=
  Fields.Lawful.record

/-- Every identifier fits. -/
theorem EntityId.fits {kind : EntityKind} (id : EntityId kind) :
    EntityId.format.fits id :=
  ⟨True.intro, True.intro, True.intro⟩

namespace EntityRef

/-- The cases of a reference are lawful. -/
theorem cases_lawful :
    Case.AllLawful (fun e : EntityRef => e.kind.ctorIdx) 0 cases := by
  refine ⟨?_, ?_, ?_, ?_, ?_, ?_, True.intro⟩
  all_goals
    refine ⟨inferInstanceAs EntityId.format.Lawful, fun _ => rfl,
      @fun e id h => ?_, fun _ => rfl⟩
    obtain ⟨kind, shard, realm, num⟩ := e
    cases kind <;> cases h
    rfl

instance : format.Lawful :=
  Case.union_lawful cases_lawful (by decide)

/-- Every kind has its case. -/
theorem exists_case (kind : EntityKind) : ∃ name, case name kind ∈ cases := by
  cases kind with
  | account => exact ⟨_, .head _⟩
  | file => exact ⟨_, .tail _ (.head _)⟩
  | contract => exact ⟨_, .tail _ (.tail _ (.head _))⟩
  | topic => exact ⟨_, .tail _ (.tail _ (.tail _ (.head _)))⟩
  | token => exact ⟨_, .tail _ (.tail _ (.tail _ (.tail _ (.head _))))⟩
  | schedule =>
      exact ⟨_, .tail _ (.tail _ (.tail _ (.tail _ (.tail _ (.head _)))))⟩

/-- Every reference fits. -/
theorem fits (e : EntityRef) : format.fits e := by
  obtain ⟨name, hmem⟩ := exists_case e.kind
  exact (Case.union_fits_make cases_lawful hmem e.id).2 e.id.fits

end EntityRef

instance : TransactionId.fields.Lawful :=
  Fields.Lawful.as (fun _ => rfl) (fun _ => rfl)

instance : TransactionId.format.Lawful :=
  Fields.Lawful.record

-- ============================================================ enumerations

instance : FailureReason.format.Lawful :=
  Format.Lawful.enumeration (by decide)

/-- Every reason fits. -/
theorem FailureReason.fits (r : FailureReason) : format.fits r := by
  show r ∈ all
  cases r <;> decide

instance : ResponseCode.format.Lawful :=
  Format.Lawful.enumeration (by decide)

/-- Every response fits. -/
theorem ResponseCode.fits (c : ResponseCode) : format.fits c := by
  show c ∈ all
  cases c <;> decide

instance : SignatureStatusCode.format.Lawful :=
  Format.Lawful.enumeration (by decide)

/-- Every status fits. -/
theorem SignatureStatusCode.fits (c : SignatureStatusCode) : format.fits c := by
  show c ∈ all
  cases c <;> decide

-- ============================================================= configurations

instance : SpecialFiles.fields.Lawful :=
  Fields.Lawful.as (fun _ => rfl) (fun _ => rfl)

instance : SpecialFiles.format.Lawful :=
  Fields.Lawful.record

instance : EntityNumbers.fields.Lawful :=
  Fields.Lawful.as (fun _ => rfl) (fun _ => rfl)

instance : EntityNumbers.format.Lawful :=
  Fields.Lawful.record

/-- The numbers of special files fit. -/
theorem SpecialFiles.fits (x : SpecialFiles) : format.fits x :=
  ⟨True.intro, True.intro, True.intro, True.intro, True.intro, True.intro,
    True.intro⟩

/-- The numbers of well-known entities fit. -/
theorem EntityNumbers.fits (x : EntityNumbers) : format.fits x :=
  ⟨True.intro, True.intro, True.intro, True.intro, True.intro, True.intro,
    True.intro, True.intro, x.files.fits⟩

instance : WaiverConfig.fields.Lawful :=
  Fields.Lawful.as (fun _ => rfl) (fun _ => rfl)

instance : WaiverConfig.format.Lawful :=
  Fields.Lawful.record

instance : SigningConfig.fields.Lawful :=
  Fields.Lawful.as (fun _ => rfl) (fun _ => rfl)

instance : SigningConfig.format.Lawful :=
  Fields.Lawful.record

-- =========================================== operations on accounts and files

instance : CryptoCreate.fields.Lawful :=
  Fields.Lawful.as (fun _ => rfl) (fun _ => rfl)

instance : CryptoCreate.format.Lawful :=
  Fields.Lawful.record

instance : AccountAmount.fields.Lawful :=
  Fields.Lawful.as (fun _ => rfl) (fun _ => rfl)

instance : AccountAmount.format.Lawful :=
  Fields.Lawful.record

instance : NftTransfer.fields.Lawful :=
  Fields.Lawful.as (fun _ => rfl) (fun _ => rfl)

instance : NftTransfer.format.Lawful :=
  Fields.Lawful.record

instance : TokenTransferList.fields.Lawful :=
  Fields.Lawful.as (fun _ => rfl) (fun _ => rfl)

instance : TokenTransferList.format.Lawful :=
  Fields.Lawful.record

instance : CryptoTransfer.fields.Lawful :=
  Fields.Lawful.as (fun _ => rfl) (fun _ => rfl)

instance : CryptoTransfer.format.Lawful :=
  Fields.Lawful.record

instance : CryptoUpdate.fields.Lawful :=
  Fields.Lawful.as (fun _ => rfl) (fun _ => rfl)

instance : CryptoUpdate.format.Lawful :=
  Fields.Lawful.record

instance : CryptoDelete.fields.Lawful :=
  Fields.Lawful.as (fun _ => rfl) (fun _ => rfl)

instance : CryptoDelete.format.Lawful :=
  Fields.Lawful.record

instance : FileCreate.fields.Lawful :=
  Fields.Lawful.as (fun _ => rfl) (fun _ => rfl)

instance : FileCreate.format.Lawful :=
  Fields.Lawful.record

instance : FileAppend.fields.Lawful :=
  Fields.Lawful.as (fun _ => rfl) (fun _ => rfl)

instance : FileAppend.format.Lawful :=
  Fields.Lawful.record

instance : FileUpdate.fields.Lawful :=
  Fields.Lawful.as (fun _ => rfl) (fun _ => rfl)

instance : FileUpdate.format.Lawful :=
  Fields.Lawful.record

instance : FileDelete.fields.Lawful :=
  Fields.Lawful.as (fun _ => rfl) (fun _ => rfl)

instance : FileDelete.format.Lawful :=
  Fields.Lawful.record

-- ========================================= operations on contracts and topics

instance : ContractCreate.fields.Lawful :=
  Fields.Lawful.as (fun _ => rfl) (fun _ => rfl)

instance : ContractCreate.format.Lawful :=
  Fields.Lawful.record

instance : ContractUpdate.fields.Lawful :=
  Fields.Lawful.as (fun _ => rfl) (fun _ => rfl)

instance : ContractUpdate.format.Lawful :=
  Fields.Lawful.record

/-- The cases of an obtainer are lawful. -/
theorem Obtainer.cases_lawful : Case.AllLawful Obtainer.ctorIdx 0 cases := by
  refine ⟨?_, ?_, True.intro⟩
  all_goals
    refine ⟨inferInstance, fun _ => rfl, fun h => ?_, fun _ => rfl⟩
    dsimp only at h
    split at h <;> cases h
    rfl

instance : Obtainer.format.Lawful :=
  Case.union_lawful Obtainer.cases_lawful (by decide)

/-- Every obtainer fits. -/
theorem Obtainer.fits : (o : Obtainer) → format.fits o
  | account id => (Case.union_fits_make cases_lawful (.head _) id).2 id.fits
  | contract id =>
    (Case.union_fits_make cases_lawful (.tail _ (.head _)) id).2 id.fits

instance : ContractDelete.fields.Lawful :=
  Fields.Lawful.as (fun _ => rfl) (fun _ => rfl)

instance : ContractDelete.format.Lawful :=
  Fields.Lawful.record

instance : ContractCall.fields.Lawful :=
  Fields.Lawful.as (fun _ => rfl) (fun _ => rfl)

instance : ContractCall.format.Lawful :=
  Fields.Lawful.record

instance : TopicCreate.fields.Lawful :=
  Fields.Lawful.as (fun _ => rfl) (fun _ => rfl)

instance : TopicCreate.format.Lawful :=
  Fields.Lawful.record

instance : TopicUpdate.fields.Lawful :=
  Fields.Lawful.as (fun _ => rfl) (fun _ => rfl)

instance : TopicUpdate.format.Lawful :=
  Fields.Lawful.record

instance : TopicDelete.fields.Lawful :=
  Fields.Lawful.as (fun _ => rfl) (fun _ => rfl)

instance : TopicDelete.format.Lawful :=
  Fields.Lawful.record

instance : SubmitMessage.fields.Lawful :=
  Fields.Lawful.as (fun _ => rfl) (fun _ => rfl)

instance : SubmitMessage.format.Lawful :=
  Fields.Lawful.record

-- ======================================================= operations on tokens

instance : FixedFee.fields.Lawful :=
  Fields.Lawful.as (fun _ => rfl) (fun _ => rfl)

instance : FixedFee.format.Lawful :=
  Fields.Lawful.record

instance : FractionalFee.fields.Lawful :=
  Fields.Lawful.as (fun _ => rfl) (fun _ => rfl)

instance : FractionalFee.format.Lawful :=
  Fields.Lawful.record

instance : RoyaltyFee.fields.Lawful :=
  Fields.Lawful.as (fun _ => rfl) (fun _ => rfl)

instance : RoyaltyFee.format.Lawful :=
  Fields.Lawful.record

/-- Every fixed fee fits. -/
theorem FixedFee.fits (x : FixedFee) : format.fits x :=
  ⟨True.intro, fun id _ => id.fits⟩

/-- Every fractional fee fits. -/
theorem FractionalFee.fits (x : FractionalFee) : format.fits x :=
  ⟨True.intro, True.intro, True.intro, True.intro, True.intro⟩

/-- Every royalty fee fits. -/
theorem RoyaltyFee.fits (x : RoyaltyFee) : format.fits x :=
  ⟨True.intro, True.intro, fun fee _ => fee.fits⟩

/-- The cases of a fee are lawful. -/
theorem CustomFeeKind.cases_lawful :
    Case.AllLawful CustomFeeKind.ctorIdx 0 cases := by
  refine ⟨?_, ?_, ?_, True.intro⟩
  all_goals
    refine ⟨inferInstance, fun _ => rfl, fun h => ?_, fun _ => rfl⟩
    dsimp only at h
    split at h <;> cases h
    rfl

instance : CustomFeeKind.format.Lawful :=
  Case.union_lawful CustomFeeKind.cases_lawful (by decide)

/-- Whatever a fee charges fits. -/
theorem CustomFeeKind.fits : (x : CustomFeeKind) → format.fits x
  | fixed fee => (Case.union_fits_make cases_lawful (.head _) fee).2 fee.fits
  | fractional fee =>
    (Case.union_fits_make cases_lawful (.tail _ (.head _)) fee).2 fee.fits
  | royalty fee =>
    (Case.union_fits_make cases_lawful (.tail _ (.tail _ (.head _))) fee).2
      fee.fits

instance : CustomFee.fields.Lawful :=
  Fields.Lawful.as (fun _ => rfl) (fun _ => rfl)

instance : CustomFee.format.Lawful :=
  Fields.Lawful.record

instance : TokenCreate.fields.Lawful :=
  Fields.Lawful.as (fun _ => rfl) (fun _ => rfl)

instance : TokenCreate.format.Lawful :=
  Fields.Lawful.record

instance : TokenUpdate.fields.Lawful :=
  Fields.Lawful.as (fun _ => rfl) (fun _ => rfl)

instance : TokenUpdate.format.Lawful :=
  Fields.Lawful.record

instance : TokenDelete.fields.Lawful :=
  Fields.Lawful.as (fun _ => rfl) (fun _ => rfl)

instance : TokenDelete.format.Lawful :=
  Fields.Lawful.record

instance : TokenAccountOp.fields.Lawful :=
  Fields.Lawful.as (fun _ => rfl) (fun _ => rfl)

instance : TokenAccountOp.format.Lawful :=
  Fields.Lawful.record

instance : TokenWipe.fields.Lawful :=
  Fields.Lawful.as (fun _ => rfl) (fun _ => rfl)

instance : TokenWipe.format.Lawful :=
  Fields.Lawful.record

instance : TokenMint.fields.Lawful :=
  Fields.Lawful.as (fun _ => rfl) (fun _ => rfl)

instance : TokenMint.format.Lawful :=
  Fields.Lawful.record

instance : TokenBurn.fields.Lawful :=
  Fields.Lawful.as (fun _ => rfl) (fun _ => rfl)

instance : TokenBurn.format.Lawful :=
  Fields.Lawful.record

instance : TokenAssociation.fields.Lawful :=
  Fields.Lawful.as (fun _ => rfl) (fun _ => rfl)

instance : TokenAssociation.format.Lawful :=
  Fields.Lawful.record

instance : TokenFeeScheduleUpdate.fields.Lawful :=
  Fields.Lawful.as (fun _ => rfl) (fun _ => rfl)

instance : TokenFeeScheduleUpdate.format.Lawful :=
  Fields.Lawful.record

-- =============================================== schedules and administration

instance : ScheduleTerms.fields.Lawful :=
  Fields.Lawful.as (fun _ => rfl) (fun _ => rfl)

instance : ScheduleSign.fields.Lawful :=
  Fields.Lawful.as (fun _ => rfl) (fun _ => rfl)

instance : ScheduleSign.format.Lawful :=
  Fields.Lawful.record

instance : ScheduleDelete.fields.Lawful :=
  Fields.Lawful.as (fun _ => rfl) (fun _ => rfl)

instance : ScheduleDelete.format.Lawful :=
  Fields.Lawful.record

/-- The cases of a target are lawful. -/
theorem SystemTarget.cases_lawful :
    Case.AllLawful SystemTarget.ctorIdx 0 cases := by
  refine ⟨?_, ?_, True.intro⟩
  all_goals
    refine ⟨inferInstance, fun _ => rfl, fun h => ?_, fun _ => rfl⟩
    dsimp only at h
    split at h <;> cases h
    rfl

instance : SystemTarget.format.Lawful :=
  Case.union_lawful SystemTarget.cases_lawful (by decide)

/-- Every target fits. -/
theorem SystemTarget.fits : (x : SystemTarget) → format.fits x
  | file id => (Case.union_fits_make cases_lawful (.head _) id).2 id.fits
  | contract id =>
    (Case.union_fits_make cases_lawful (.tail _ (.head _)) id).2 id.fits

instance : SystemDelete.fields.Lawful :=
  Fields.Lawful.as (fun _ => rfl) (fun _ => rfl)

instance : SystemDelete.format.Lawful :=
  Fields.Lawful.record

instance : SystemUndelete.fields.Lawful :=
  Fields.Lawful.as (fun _ => rfl) (fun _ => rfl)

instance : SystemUndelete.format.Lawful :=
  Fields.Lawful.record

instance : Freeze.fields.Lawful :=
  Fields.Lawful.as (fun _ => rfl) (fun _ => rfl)

instance : Freeze.format.Lawful :=
  Fields.Lawful.record

end SigningOrder
