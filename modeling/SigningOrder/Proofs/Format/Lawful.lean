/-
The law of written forms. A format writes values as bytes and reads them from
the front of bytes. `ReadsBack` says that the two belong together:

- what is written is read back, whatever is behind it;
- what is read is read the same with more behind it;
- only values that fit are read.

The second is what makes the law hold of formats in a row, and together with
the first it says that no encoding goes on behind another: a strict beginning
of an encoding is never read (`ReadsBack.decode_beginning`). The third says that
whatever was read can be written again (`ReadsBack.decode_reencoded`).

The law is a class of formats and of runs of fields, with one instance for
each way of putting them together, so that the law of a record is found from
those of its parts. Scalars and unions are in the modules beside this one.
-/
import SigningOrder.Format.Fields
import SigningOrder.Proofs.Chain

namespace SigningOrder

variable {α β : Type}

/-- A way of reading goes with a way of writing, on the values that fit. -/
structure ReadsBack (fits : α → Prop) (encode : α → Bytes)
    (decode : Bytes → Except DecodeError (α × Bytes)) : Prop where
  decode_encode : ∀ {a}, fits a → ∀ rest,
    decode (encode a ++ rest) = .ok (a, rest)
  decode_append : ∀ {bytes a rest}, decode bytes = .ok (a, rest) → ∀ more,
    decode (bytes ++ more) = .ok (a, rest ++ more)
  fits_of_decode : ∀ {bytes a rest}, decode bytes = .ok (a, rest) → fits a

/-- The law of a format. -/
class Format.Lawful (f : Format α) : Prop where
  law : ReadsBack f.fits f.encode f.decode

/-- The law of a run of fields. -/
class Fields.Lawful (f : Fields α) : Prop where
  law : ReadsBack f.fits f.encode f.decode

namespace ReadsBack

variable {fits : α → Prop} {encode : α → Bytes}
  {decode : Bytes → Except DecodeError (α × Bytes)}

-- ======================================================= what the law gives

/-- A strict beginning of an encoding is not read: with the rest behind it,
it would leave that rest over. -/
theorem decode_beginning (h : ReadsBack fits encode decode) {a : α} (ha : fits a)
    {bytes : Bytes} (hbegins : bytes <+: encode a) (hne : bytes ≠ encode a) :
    ∃ e, decode bytes = .error e := by
  obtain ⟨more, hmore⟩ := hbegins
  cases hread : decode bytes with
  | error e => exact ⟨e, rfl⟩
  | ok read =>
      obtain ⟨b, rest⟩ := read
      -- With what is missing behind them the bytes are the encoding, and then
      -- nothing is left over.
      have hlong := h.decode_append hread more
      have hwhole := h.decode_encode ha []
      rw [List.append_nil, ← hmore, hlong] at hwhole
      have hnothing : rest ++ more = [] :=
        congrArg Prod.snd (Except.ok.inj hwhole)
      rw [(List.append_eq_nil_iff.1 hnothing).2, List.append_nil] at hmore
      exact absurd hmore hne

/-- Whatever was read can be written, and is read again from what was
written. -/
theorem decode_reencoded (h : ReadsBack fits encode decode) {bytes rest : Bytes}
    {a : α} (hread : decode bytes = .ok (a, rest)) :
    decode (encode a) = .ok (a, []) := by
  have hwhole := h.decode_encode (h.fits_of_decode hread) []
  rwa [List.append_nil] at hwhole

-- ========================================================= putting together

/-- Two values in a row. -/
theorem pair (h : ReadsBack fits encode decode) {fits' : β → Prop}
    {encode' : β → Bytes} {decode' : Bytes → Except DecodeError (β × Bytes)}
    (h' : ReadsBack fits' encode' decode') :
    ReadsBack (fun v : α × β => fits v.1 ∧ fits' v.2)
      (fun v => encode v.1 ++ encode' v.2)
      (fun bytes => do
        let (a, bytes) ← decode bytes
        let (b, bytes) ← decode' bytes
        return ((a, b), bytes)) where
  decode_encode := by
    rintro ⟨a, b⟩ ⟨ha, hb⟩ rest
    dsimp only at ha hb ⊢
    rw [List.append_assoc]
    refine bind_eq_ok.2 ⟨(a, encode' b ++ rest), h.decode_encode ha _, ?_⟩
    exact bind_eq_ok.2 ⟨(b, rest), h'.decode_encode hb rest, rfl⟩
  decode_append := by
    rintro bytes ⟨a, b⟩ rest hread more
    obtain ⟨⟨a', middle⟩, ha, hread⟩ := bind_eq_ok.1 hread
    obtain ⟨⟨b', rest'⟩, hb, hread⟩ := bind_eq_ok.1 hread
    cases pure_eq_ok.1 hread
    refine bind_eq_ok.2 ⟨(a, middle ++ more), h.decode_append ha more, ?_⟩
    exact bind_eq_ok.2 ⟨(b, rest ++ more), h'.decode_append hb more, rfl⟩
  fits_of_decode := by
    rintro bytes ⟨a, b⟩ rest hread
    obtain ⟨⟨a', middle⟩, ha, hread⟩ := bind_eq_ok.1 hread
    obtain ⟨⟨b', rest'⟩, hb, hread⟩ := bind_eq_ok.1 hread
    cases pure_eq_ok.1 hread
    exact ⟨h.fits_of_decode ha, h'.fits_of_decode hb⟩

/-- The same values under another type. -/
theorem as (h : ReadsBack fits encode decode) {make : α → β} {view : β → α}
    (hmake : ∀ b, make (view b) = b) (hview : ∀ a, view (make a) = a) :
    ReadsBack (fun b => fits (view b)) (fun b => encode (view b))
      (fun bytes => do
        let (a, rest) ← decode bytes
        return (make a, rest)) where
  decode_encode := by
    intro b hb rest
    refine bind_eq_ok.2 ⟨_, h.decode_encode hb rest, ?_⟩
    exact pure_eq_ok.2 (Prod.ext (hmake b) rfl)
  decode_append := by
    intro bytes b rest hread more
    obtain ⟨⟨a, rest'⟩, ha, hread⟩ := bind_eq_ok.1 hread
    cases pure_eq_ok.1 hread
    exact bind_eq_ok.2 ⟨_, h.decode_append ha more, rfl⟩
  fits_of_decode := by
    intro bytes b rest hread
    obtain ⟨⟨a, rest'⟩, ha, hread⟩ := bind_eq_ok.1 hread
    cases pure_eq_ok.1 hread
    rw [hview a]
    exact h.fits_of_decode ha

end ReadsBack

-- ================================================================== formats

namespace Format

/-- A value that a check accepts is read where it accepts what is read. -/
theorem convert_decode_eq_ok {f : Format α} {check : α → Except ReadError β}
    {view : β → α} {fits : β → Prop} {bytes rest : Bytes} {b : β} :
    (f.convert check view fits).decode bytes = .ok (b, rest)
      ↔ ∃ a, f.decode bytes = .ok (a, rest) ∧ check a = .ok b := by
  constructor
  · intro h
    obtain ⟨⟨a, behind⟩, ha, h⟩ := bind_eq_ok.1 h
    dsimp only at h
    cases hcheck : check a with
    | error e =>
        rw [hcheck] at h
        cases h
    | ok b' =>
        rw [hcheck] at h
        cases pure_eq_ok.1 h
        exact ⟨a, ha, hcheck⟩
  · rintro ⟨a, ha, hcheck⟩
    refine bind_eq_ok.2 ⟨_, ha, ?_⟩
    dsimp only
    rw [hcheck]
    rfl

/-- The values that a check accepts keep the law, if the check undoes the
view on what fits and gives nothing else. -/
theorem Lawful.convert {f : Format α} [f.Lawful] {check : α → Except ReadError β}
    {view : β → α} {fits : β → Prop}
    (hview : ∀ b, fits b → f.fits (view b) ∧ check (view b) = .ok b)
    (hcheck : ∀ a b, f.fits a → check a = .ok b → fits b) :
    (f.convert check view fits).Lawful where
  law := {
    decode_encode := by
      intro b hb rest
      obtain ⟨hfits, hok⟩ := hview b hb
      exact convert_decode_eq_ok.2 ⟨_, law.decode_encode hfits rest, hok⟩
    decode_append := by
      intro bytes b rest h more
      obtain ⟨a, ha, hok⟩ := convert_decode_eq_ok.1 h
      exact convert_decode_eq_ok.2 ⟨a, law.decode_append ha more, hok⟩
    fits_of_decode := by
      intro bytes b rest h
      obtain ⟨a, ha, hok⟩ := convert_decode_eq_ok.1 h
      exact hcheck a b (law.fits_of_decode ha) hok }

/-- A byte that must be 0 or 1 is read the same with more behind it. -/
theorem decodeFlag_append {fault : DecodeError} {bytes rest : Bytes} {flag : Bool}
    (h : decodeFlag fault bytes = .ok (flag, rest)) (more : Bytes) :
    decodeFlag fault (bytes ++ more) = .ok (flag, rest ++ more) := by
  cases bytes with
  | nil => cases h
  | cons b bytes =>
      rw [List.cons_append]
      rw [decodeFlag] at h ⊢
      by_cases hzero : b = 0
      · rw [if_pos hzero] at h ⊢
        cases h
        rfl
      · rw [if_neg hzero] at h ⊢
        by_cases hone : b = 1
        · rw [if_pos hone] at h ⊢
          cases h
          rfl
        · rw [if_neg hone] at h
          cases h

instance Lawful.option {f : Format α} [f.Lawful] : (Format.option f).Lawful where
  law := {
    decode_encode := by
      intro a ha rest
      cases a with
      | none => rfl
      | some x =>
          refine bind_eq_ok.2 ⟨(true, f.encode x ++ rest), rfl, ?_⟩
          exact bind_eq_ok.2
            ⟨(x, rest), law.decode_encode (ha x rfl) rest, rfl⟩
    decode_append := by
      intro bytes a rest h more
      obtain ⟨⟨present, bytes'⟩, hflag, h⟩ := bind_eq_ok.1 h
      refine bind_eq_ok.2 ⟨_, decodeFlag_append hflag more, ?_⟩
      dsimp only at h ⊢
      cases present with
      | false =>
          cases pure_eq_ok.1 h
          rfl
      | true =>
          obtain ⟨⟨x, rest'⟩, hx, h⟩ := bind_eq_ok.1 h
          cases pure_eq_ok.1 h
          exact bind_eq_ok.2 ⟨_, law.decode_append hx more, rfl⟩
    fits_of_decode := by
      intro bytes a rest h x hx
      obtain ⟨⟨present, bytes'⟩, hflag, h⟩ := bind_eq_ok.1 h
      dsimp only at h
      cases present with
      | false =>
          cases pure_eq_ok.1 h
          cases hx
      | true =>
          obtain ⟨⟨y, rest'⟩, hy, h⟩ := bind_eq_ok.1 h
          cases pure_eq_ok.1 h
          cases hx
          exact law.fits_of_decode hy }

end Format

-- =================================================================== fields

namespace Fields

instance Lawful.field {name : String} {f : Format α} {presence : Presence α}
    {start : Option α} [f.Lawful] : (field name f presence start).Lawful :=
  ⟨Format.Lawful.law (f := f)⟩

instance Lawful.required {name : String} {f : Format α} [f.Lawful] :
    (required name f).Lawful :=
  Lawful.field

instance Lawful.starting {name : String} {f : Format α} {start : α} [f.Lawful] :
    (starting name f start).Lawful :=
  Lawful.field

instance Lawful.optional {name : String} {f : Format α} [f.Lawful] :
    (optional name f).Lawful :=
  Lawful.field

instance Lawful.defaulted {name : String} {f : Format α} {start : α} [f.Lawful] :
    (defaulted name f start).Lawful :=
  Lawful.field

instance Lawful.and {first : Fields α} {second : Fields β} [first.Lawful]
    [second.Lawful] : (Fields.and first second).Lawful :=
  ⟨(law (f := first)).pair law⟩

/-- Fields as another type keep the law, if the type holds the same values. -/
theorem Lawful.as {fields : Fields α} [fields.Lawful] {make : α → β}
    {view : β → α}
    (hmake : ∀ b, make (view b) = b) (hview : ∀ a, view (make a) = a) :
    (fields.as make view).Lawful :=
  ⟨(law (f := fields)).as hmake hview⟩

instance Lawful.record {fields : Fields α} [h : fields.Lawful] :
    fields.record.Lawful :=
  ⟨h.law⟩

instance Lawful.namedRecord {fields : Fields α} [h : fields.Lawful] :
    fields.namedRecord.Lawful :=
  ⟨h.law⟩

end Fields

end SigningOrder
