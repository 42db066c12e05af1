/-
The law of bodies of transactions. A body inside of another is read with one
level less, and the number of bytes bounds the levels; three facts make the
bound irrelevant:

- what is read at some number of levels is read alike at more
  (`decode_formatAt_mono`), since the body inside decides one case only;
- a body that fits at some number of levels fits at its own
  (`fits_levels`);
- a body has at least as many bytes as levels (`levels_le_length`), since
  each level begins with the number of its operation.
-/
import SigningOrder.Body
import SigningOrder.Proofs.Format.Records

namespace SigningOrder

namespace Body

-- =============================================================== one level

instance {inner : Format Body} [inner.Lawful] : (scheduleFields inner).Lawful :=
  inferInstanceAs (Fields.and _ _).Lawful

/-- The cases of a body are lawful if the body inside keeps the law. -/
theorem cases_lawful (inner : Format Body) [inner.Lawful] :
    Case.AllLawful Body.ctorIdx 0 (cases inner) := by
  refine ⟨?_, ?_, ?_, ?_, ?_, ?_, ?_, ?_, ?_, ?_, ?_, ?_, ?_, ?_, ?_, ?_, ?_,
    ?_, ?_, ?_, ?_, ?_, ?_, ?_, ?_, ?_, ?_, ?_, ?_, ?_, ?_, ?_, ?_, ?_, ?_,
    True.intro⟩
  all_goals
    refine ⟨inferInstance, fun _ => rfl, fun h => ?_, fun _ => rfl⟩
    dsimp only at h
    split at h <;> cases h
    rfl

/-- The place of the body that creates a schedule, the only one that holds
another. -/
def schedulePlace : Nat := 29

/-- The case of the body that creates a schedule. -/
def scheduleCase (inner : Format Body) : Case Body :=
  ⟨"ScheduleCreate", Body × ScheduleTerms, (scheduleFields inner).record,
    fun (scheduled, terms) => .scheduleCreate scheduled terms,
    fun | .scheduleCreate scheduled terms => some (scheduled, terms) | _ => none⟩

/-- The body inside decides one case only. -/
theorem cases_eq (inner other : Format Body) :
    cases inner = (cases other).set schedulePlace (scheduleCase inner) :=
  rfl

/-- The cases at the other places are the same for every body inside. -/
theorem cases_other (inner other : Format Body) {i : Nat}
    (hi : i ≠ schedulePlace) : (cases inner)[i]? = (cases other)[i]? := by
  rw [cases_eq inner other, List.getElem?_set_ne hi.symm]

/-- There are fewer cases than places to write. -/
theorem length_cases_le (inner : Format Body) :
    (cases inner).length ≤ UInt32.size := by
  show 35 ≤ 4294967296
  decide

/-- A body creates a schedule, or has one level and another place. -/
theorem creates_schedule_or (b : Body) :
    (∃ scheduled terms, b = scheduleCreate scheduled terms)
      ∨ b.levels = 1 ∧ b.ctorIdx ≠ schedulePlace := by
  cases b with
  | scheduleCreate scheduled terms => exact .inl ⟨scheduled, terms, rfl⟩
  | _ => exact .inr ⟨rfl, Nat.ne_of_beq_eq_false rfl⟩

-- ============================================================= every level

instance formatAt_lawful (n : Nat) : (formatAt n).Lawful := by
  induction n with
  | zero =>
      exact ⟨{
        decode_encode := fun h => h.elim
        decode_append := nofun
        fits_of_decode := nofun }⟩
  | succ n ih =>
      exact Case.union_lawful (cases_lawful (formatAt n))
        (length_cases_le (formatAt n))

/-- What is read at some levels is read alike at one more. -/
theorem decode_formatAt_succ {n : Nat} {bytes rest : Bytes} {b : Body}
    (h : (formatAt n).decode bytes = .ok (b, rest)) :
    (formatAt (n + 1)).decode bytes = .ok (b, rest) := by
  induction n generalizing bytes rest b with
  | zero => cases h
  | succ n ih =>
      obtain ⟨i, behind, c, p, hplace, hc, hp, hmake⟩ :=
        Case.union_decode_eq_ok.1 h
      by_cases hi : i = schedulePlace
      · -- Only the payload of this case depends on the levels.
        subst hi
        cases hc
        obtain ⟨inner, hinner, hterms⟩ := bind_eq_ok.1 hp
        exact Case.union_decode_eq_ok.2 ⟨schedulePlace, behind,
          scheduleCase (formatAt (n + 1)), p, hplace, rfl,
          bind_eq_ok.2 ⟨inner, ih hinner, hterms⟩, hmake⟩
      · rw [cases_other _ (formatAt (n + 1)) hi] at hc
        exact Case.union_decode_eq_ok.2
          ⟨i, behind, c, p, hplace, hc, hp, hmake⟩

/-- What is read at some levels is read alike at more. -/
theorem decode_formatAt_mono {n m : Nat} (hle : n ≤ m) {bytes rest : Bytes}
    {b : Body} (h : (formatAt n).decode bytes = .ok (b, rest)) :
    (formatAt m).decode bytes = .ok (b, rest) := by
  induction hle with
  | refl => exact h
  | step _ ih => exact decode_formatAt_succ ih

/-- A body that creates a schedule fits at some levels if the body inside fits
at one less, and its other terms fit. -/
theorem fits_scheduleCreate {n : Nat} {scheduled : Body} {terms : ScheduleTerms} :
    (formatAt (n + 1)).fits (scheduleCreate scheduled terms)
      ↔ (formatAt n).fits scheduled ∧ ScheduleTerms.fields.fits terms :=
  Case.union_fits_make (cases_lawful (formatAt n))
    (List.mem_of_getElem? (i := schedulePlace) rfl) (scheduled, terms)

/-- A body that fits at some levels has a case whose payload fits, and is
written as the place of the case and the payload. -/
theorem case_of_fits {n : Nat} {b : Body} (h : (formatAt (n + 1)).fits b) :
    ∃ (c : Case Body) (p : c.Payload), (cases (formatAt n))[b.ctorIdx]? = some c
      ∧ c.payload? b = some p ∧ c.format.fits p
      ∧ (formatAt (n + 1)).encode b
        = Varint.encode b.ctorIdx ++ c.format.encode p := by
  have hlaw := cases_lawful (formatAt n)
  obtain ⟨c, hmem, p, hp, hfits⟩ := h
  obtain ⟨i, hc⟩ := List.getElem?_of_mem hmem
  have hplace : b.ctorIdx = 0 + i := (hlaw.at hc).tag_of_payload hp
  rw [Nat.zero_add] at hplace
  rw [hplace]
  exact ⟨c, p, hc, hp, hfits, Case.encode_at hlaw hc hp⟩

/-- A body that fits at some levels has no more, and fits at its own. -/
theorem fits_levels : ∀ {n : Nat} {b : Body}, (formatAt n).fits b →
    (formatAt b.levels).fits b
  | 0, _, h => h.elim
  | n + 1, b, h => by
      rcases creates_schedule_or b with ⟨scheduled, terms, rfl⟩ | ⟨hone, hplace⟩
      · obtain ⟨hscheduled, hterms⟩ := fits_scheduleCreate.1 h
        exact fits_scheduleCreate.2 ⟨fits_levels hscheduled, hterms⟩
      · obtain ⟨c, p, hc, hp, hfits, -⟩ := case_of_fits h
        rw [cases_other _ (formatAt 0) hplace] at hc
        rw [hone]
        exact ⟨c, List.mem_of_getElem? hc, p, hp, hfits⟩

/-- A body has at least as many bytes as levels, at any number of levels. -/
theorem levels_le_length_at : ∀ {n : Nat} {b : Body}, (formatAt n).fits b →
    b.levels ≤ ((formatAt n).encode b).length
  | 0, _, h => h.elim
  | n + 1, b, h => by
      obtain ⟨c, p, hc, hp, -, hencode⟩ := case_of_fits h
      have hpos := Varint.length_encode_pos b.ctorIdx
      rw [hencode, List.length_append]
      rcases creates_schedule_or b with ⟨scheduled, terms, rfl⟩ | ⟨hone, -⟩
      · have hinner := levels_le_length_at (fits_scheduleCreate.1 h).1
        cases hc
        cases hp
        show levels scheduled + 1 ≤ _ + ((formatAt n).encode scheduled
          ++ ScheduleTerms.fields.encode terms).length
        rw [List.length_append]
        omega
      · omega

/-- A body has at least as many bytes as levels. -/
theorem levels_le_length {b : Body} (h : format.fits b) :
    b.levels ≤ (format.encode b).length :=
  levels_le_length_at (n := b.levels) h

/-- Bytes are read with one level more than they could hold. -/
theorem decode_eq (bytes : Bytes) :
    format.decode bytes = (formatAt (bytes.length + 1)).decode bytes :=
  rfl

instance : format.Lawful where
  law := {
    decode_encode := by
      intro b hb rest
      have hlevels := levels_le_length hb
      have hread : (formatAt b.levels).decode (format.encode b ++ rest)
        = .ok (b, rest) := (formatAt_lawful b.levels).law.decode_encode hb rest
      rw [decode_eq]
      -- The bytes are as many as the levels of the body, or more.
      refine decode_formatAt_mono ?_ hread
      rw [List.length_append]
      omega
    decode_append := by
      intro bytes b rest h more
      rw [decode_eq] at h ⊢
      have hlong := Format.Lawful.law.decode_append h more
      refine decode_formatAt_mono ?_ hlong
      rw [List.length_append]
      omega
    fits_of_decode := by
      intro bytes b rest h
      rw [decode_eq] at h
      exact fits_levels (Format.Lawful.law.fits_of_decode h) }

/-- A body that creates a schedule fits if the body inside and the other terms
fit. -/
theorem format_fits_scheduleCreate {scheduled : Body} {terms : ScheduleTerms} :
    format.fits (scheduleCreate scheduled terms)
      ↔ format.fits scheduled ∧ ScheduleTerms.fields.fits terms :=
  fits_scheduleCreate

end Body

end SigningOrder
