/-
The law of every type that is stored or exchanged. `WrittenType` lists them;
each has its values and its format, and every format keeps the law
(`WrittenType.format_lawful`). What users of the bytes rely on follows from
the law alone (`WrittenType.decodeValue_faithful`): values come back, nothing
that breaks off early is taken for a value, and what was read can be written
again.

Some types hold only numbers and names, and all of their values fit
(`WrittenType.fits_of_isPlain`). In the others what can fail to fit is a key
that may not exist, a time without a text, or a count beyond its field.
-/
import SigningOrder.Proofs.Format.Body
import SigningOrder.Record
import SigningOrder.Transaction

namespace SigningOrder

-- ================================================= transactions and records

instance : Transaction.fields.Lawful :=
  Fields.Lawful.as (fun _ => rfl) (fun _ => rfl)

instance : Transaction.format.Lawful :=
  Fields.Lawful.record

instance : AccountRecord.fields.Lawful :=
  Fields.Lawful.as (fun _ => rfl) (fun _ => rfl)

instance : ContractRecord.fields.Lawful :=
  Fields.Lawful.as (fun _ => rfl) (fun _ => rfl)

instance : FileRecord.fields.Lawful :=
  Fields.Lawful.as (fun _ => rfl) (fun _ => rfl)

instance : TopicRecord.fields.Lawful :=
  Fields.Lawful.as (fun _ => rfl) (fun _ => rfl)

instance : TokenRecord.fields.Lawful :=
  Fields.Lawful.as (fun _ => rfl) (fun _ => rfl)

instance : ScheduleRecord.fields.Lawful :=
  Fields.Lawful.as (fun _ => rfl) (fun _ => rfl)

/-- The records of every kind keep the law. -/
instance Record.format_lawful : (kind : EntityKind) → (Record.format kind).Lawful
  | .account => inferInstanceAs AccountRecord.fields.record.Lawful
  | .file => inferInstanceAs FileRecord.fields.record.Lawful
  | .contract => inferInstanceAs ContractRecord.fields.record.Lawful
  | .topic => inferInstanceAs TopicRecord.fields.record.Lawful
  | .token => inferInstanceAs TokenRecord.fields.record.Lawful
  | .schedule => inferInstanceAs ScheduleRecord.fields.record.Lawful

-- ============================================================== whole values

namespace Format

variable {α : Type} {f : Format α} [f.Lawful]

/-- A value is decoded from its encoding, whatever is behind it. -/
theorem decodeValue_encode {v : α} (hv : f.fits v) (behind : Bytes) :
    f.decodeValue (f.encode v ++ behind) = .ok v :=
  map_eq_ok.2 ⟨_, Lawful.law.decode_encode hv behind, rfl⟩

/-- No value is decoded from a strict beginning of an encoding. -/
theorem decodeValue_beginning {v : α} (hv : f.fits v) {bytes : Bytes}
    (hbegins : bytes <+: f.encode v) (hne : bytes ≠ f.encode v) :
    ∃ e, f.decodeValue bytes = .error e := by
  obtain ⟨e, he⟩ := (Lawful.law (f := f)).decode_beginning hv hbegins hne
  exact ⟨e, by rw [decodeValue, he]; rfl⟩

/-- No encoding goes on as that of another value. -/
theorem eq_of_encode_begins {v w : α} (hv : f.fits v) (hw : f.fits w)
    (hbegins : f.encode v <+: f.encode w) : v = w := by
  obtain ⟨behind, hbehind⟩ := hbegins
  have hfirst := decodeValue_encode hv behind
  have hsecond := decodeValue_encode hw []
  rw [List.append_nil, ← hbehind, hfirst] at hsecond
  exact Except.ok.inj hsecond

/-- What was decoded fits, and is decoded again from its encoding. -/
theorem decodeValue_reencoded {bytes : Bytes} {v : α}
    (h : f.decodeValue bytes = .ok v) :
    f.fits v ∧ f.decodeValue (f.encode v) = .ok v := by
  obtain ⟨⟨v', rest⟩, hread, rfl⟩ := map_eq_ok.1 h
  have hlaw := Lawful.law (f := f)
  exact ⟨hlaw.fits_of_decode hread,
    map_eq_ok.2 ⟨_, hlaw.decode_reencoded hread, rfl⟩⟩

end Format

-- ================================================================ every type

/-- The types that are stored or exchanged. -/
inductive WrittenType where
  | keyAlgorithm
  | leafKey
  | key
  | keyList
  | entityId (kind : EntityKind)
  | entityRef
  | transactionId
  | body
  | transaction
  | accountAmount
  | nftTransfer
  | tokenTransferList
  | obtainer
  | systemTarget
  | fixedFee
  | fractionalFee
  | royaltyFee
  | customFeeKind
  | customFee
  | failureReason
  | responseCode
  | signatureStatusCode
  | specialFiles
  | entityNumbers
  | waiverConfig
  | signingConfig
  | record (kind : EntityKind)
  deriving DecidableEq, Repr

namespace WrittenType

/-- The values of a type. -/
abbrev Value : WrittenType → Type
  | keyAlgorithm => KeyAlgorithm
  | leafKey => LeafKey
  | key => Key
  | keyList => KeyList
  | entityId kind => EntityId kind
  | entityRef => EntityRef
  | transactionId => TransactionId
  | body => Body
  | transaction => Transaction
  | accountAmount => AccountAmount
  | nftTransfer => NftTransfer
  | tokenTransferList => TokenTransferList
  | obtainer => Obtainer
  | systemTarget => SystemTarget
  | fixedFee => FixedFee
  | fractionalFee => FractionalFee
  | royaltyFee => RoyaltyFee
  | customFeeKind => CustomFeeKind
  | customFee => CustomFee
  | failureReason => FailureReason
  | responseCode => ResponseCode
  | signatureStatusCode => SignatureStatusCode
  | specialFiles => SpecialFiles
  | entityNumbers => EntityNumbers
  | waiverConfig => WaiverConfig
  | signingConfig => SigningConfig
  | record kind => Record kind

/-- The written form of a type. -/
def format : (w : WrittenType) → Format w.Value
  | keyAlgorithm => KeyAlgorithm.format
  | leafKey => LeafKey.format
  | key => Key.format
  | keyList => KeyList.format
  | entityId _ => EntityId.format
  | entityRef => EntityRef.format
  | transactionId => TransactionId.format
  | body => Body.format
  | transaction => Transaction.format
  | accountAmount => AccountAmount.format
  | nftTransfer => NftTransfer.format
  | tokenTransferList => TokenTransferList.format
  | obtainer => Obtainer.format
  | systemTarget => SystemTarget.format
  | fixedFee => FixedFee.format
  | fractionalFee => FractionalFee.format
  | royaltyFee => RoyaltyFee.format
  | customFeeKind => CustomFeeKind.format
  | customFee => CustomFee.format
  | failureReason => FailureReason.format
  | responseCode => ResponseCode.format
  | signatureStatusCode => SignatureStatusCode.format
  | specialFiles => SpecialFiles.format
  | entityNumbers => EntityNumbers.format
  | waiverConfig => WaiverConfig.format
  | signingConfig => SigningConfig.format
  | record kind => Record.format kind

/-- Every type keeps the law. -/
instance format_lawful (w : WrittenType) : w.format.Lawful := by
  cases w
  all_goals
    unfold format
    infer_instance

/-- Whether a type holds only numbers and names. -/
def isPlain : WrittenType → Bool
  | keyAlgorithm | entityId _ | entityRef | accountAmount | nftTransfer
  | obtainer | systemTarget | fixedFee | fractionalFee | royaltyFee
  | customFeeKind | customFee | failureReason | responseCode
  | signatureStatusCode | specialFiles | entityNumbers => true
  | leafKey | key | keyList | transactionId | body | transaction
  | tokenTransferList | waiverConfig | signingConfig | record _ => false

/-- Every value of a type that holds only numbers and names fits. -/
theorem fits_of_isPlain : (w : WrittenType) → w.isPlain = true →
    ∀ v, w.format.fits v
  | keyAlgorithm, _, a => a.mem_all
  | entityId _, _, id => id.fits
  | entityRef, _, e => e.fits
  | accountAmount, _, x => ⟨x.account.fits, True.intro⟩
  | nftTransfer, _, x => ⟨x.sender.fits, x.receiver.fits, True.intro⟩
  | obtainer, _, o => o.fits
  | systemTarget, _, x => x.fits
  | fixedFee, _, x => x.fits
  | fractionalFee, _, x => x.fits
  | royaltyFee, _, x => x.fits
  | customFeeKind, _, x => x.fits
  | customFee, _, x => ⟨x.collector.fits, x.kind.fits⟩
  | failureReason, _, r => r.fits
  | responseCode, _, c => c.fits
  | signatureStatusCode, _, c => c.fits
  | specialFiles, _, x => x.fits
  | entityNumbers, _, x => x.fits

/-- What is written is written faithfully, for every type. A value that fits is
decoded from its encoding, whatever is behind it; a strict beginning of an
encoding is an error; no encoding goes on as that of another value; and what
was decoded, from whatever bytes, fits and is decoded again from its own
encoding. -/
theorem decodeValue_faithful (w : WrittenType) :
    (∀ v, w.format.fits v → ∀ behind,
      w.format.decodeValue (w.format.encode v ++ behind) = .ok v)
      ∧ (∀ v, w.format.fits v → ∀ bytes, bytes <+: w.format.encode v →
        bytes ≠ w.format.encode v → ∃ e, w.format.decodeValue bytes = .error e)
      ∧ (∀ v v', w.format.fits v → w.format.fits v' →
        w.format.encode v <+: w.format.encode v' → v = v')
      ∧ ∀ bytes v, w.format.decodeValue bytes = .ok v →
        w.format.fits v ∧ w.format.decodeValue (w.format.encode v) = .ok v := by
  refine ⟨fun v hv => Format.decodeValue_encode hv,
    fun v hv bytes => Format.decodeValue_beginning hv,
    fun v v' hv hv' => Format.eq_of_encode_begins hv hv',
    fun bytes v => Format.decodeValue_reencoded⟩

-- ========================================================= a nested schedule

/-- The leap second at the end of 2016. -/
def lastLeapSecond : Instant :=
  ⟨1483228799, 1000000000⟩

/-- A deletion inside of a schedule, inside of another. -/
def nestedSchedule : Body :=
  .scheduleCreate
    (.scheduleCreate
      (.systemDelete ⟨.file (.ofNum 150), some lastLeapSecond⟩)
      ⟨some (.threshold 1 [.leaf (.ed25519 [1]), .leaf (.ed25519 [2])]), none,
        "inner"⟩)
    ⟨none, some (.ofNum 1001), "outer"⟩

/-- A nested schedule fits: its key may exist, its time has a text, and its
texts are short. -/
theorem fits_nestedSchedule : Body.format.fits nestedSchedule := by
  have htime : lastLeapSecond.Representable :=
    ⟨by decide, .inr ⟨by decide, by decide⟩⟩
  have hdelete : Body.format.fits
      (.systemDelete ⟨.file (.ofNum 150), some lastLeapSecond⟩) := by
    refine (Case.union_fits_make (Body.cases_lawful (Body.formatAt 0))
      (List.mem_of_getElem? (i := 32) rfl) _).2 ⟨SystemTarget.fits _, ?_⟩
    rintro t ⟨⟩
    exact htime
  have hkey : Key.Writable
      (.threshold 1 [.leaf (.ed25519 [1]), .leaf (.ed25519 [2])]) := by
    simp [Key.Writable, Key.Valid, Key.WellFormed, Key.AllWellFormed, Key.depth,
      Key.maxDepth, Key.maxKeyDepth, Key.CountsFit, Key.AllCountsFit, Key.nodes,
      Key.nodesOf, LeafKey.ed25519, UInt32.size, UInt64.size]
  refine Body.format_fits_scheduleCreate.2
    ⟨Body.format_fits_scheduleCreate.2 ⟨hdelete, ?_, ?_, ?_⟩, ?_, ?_, ?_⟩
  · rintro k ⟨⟩
    exact hkey
  · rintro id ⟨⟩
  · show (Format.textBytes "inner").length < UInt64.size
    decide
  · rintro k ⟨⟩
  · rintro id ⟨⟩
    exact EntityId.fits _
  · show (Format.textBytes "outer").length < UInt64.size
    decide

/-- A nested schedule is decoded from its encoding with more behind it, and not
from its encoding without the last byte. -/
theorem decodeValue_faithful_nested :
    body.format.fits nestedSchedule
      ∧ body.format.decodeValue (body.format.encode nestedSchedule ++ [7])
        = .ok nestedSchedule
      ∧ ∃ e, body.format.decodeValue (body.format.encode nestedSchedule).dropLast
        = .error e := by
  have hfits : body.format.fits nestedSchedule := fits_nestedSchedule
  have hlength : 3 ≤ (body.format.encode nestedSchedule).length :=
    Body.levels_le_length fits_nestedSchedule
  have hbegins : (body.format.encode nestedSchedule).dropLast
      <+: body.format.encode nestedSchedule := List.dropLast_prefix _
  obtain ⟨hread, hshort, -, -⟩ := decodeValue_faithful body
  refine ⟨hfits, hread _ hfits _, hshort _ hfits _ hbegins ?_⟩
  intro heq
  have hlonger := congrArg List.length heq
  rw [List.length_dropLast] at hlonger
  omega

end WrittenType

end SigningOrder
