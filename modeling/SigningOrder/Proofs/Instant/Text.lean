/-
Time stamps in both directions. The text of an instant is read as that
instant (`read?_text`): each reader takes back what its writer has written and
stops there, and the calendar undoes itself. What is read, in any of the forms
that are read, is an instant that has a text (`representable_of_read?`): the
range of years is tested behind the offset, and a nanosecond part of a leap
second comes with second 59 only, which no offset of whole minutes moves.
-/
import Mathlib.Data.Option.Basic
import SigningOrder.Instant.Format
import SigningOrder.Proofs.Calendar
import SigningOrder.Proofs.Format.Scalar
import SigningOrder.Proofs.Text.Padded

namespace SigningOrder

namespace Instant

open Text

-- ========================================================== fields of a text

/-- A given character is read, if it is no blank that would be skipped. -/
theorem readChar_skipBlanks_cons {c : Char} (h : isBlank c = false)
    (rest : List Char) : readChar c (skipBlanks (c :: rest)) = some rest := by
  rw [skipBlanks_cons h]
  exact if_pos rfl

/-- A number of two digits is read as a field, whatever is behind it. -/
theorem readField_append {n : Nat} (h : n < 100) (rest : List Char) :
    readField (padded 2 n ++ rest) = some (n, rest) := by
  have hlength : (padded 2 n).length = 2 := length_padded (by decide) h
  rw [readField, skipBlanks_padded_append]
  exact readNumber_padded_append (Nat.le_of_eq hlength) (.inl hlength)

/-- A year behind a minus sign. -/
theorem readYear_minus (text : List Char) :
    readYear ('-' :: text) = (readNumber text.length text).map
      fun (n, rest) => (-n, rest) := by
  show (readNumber text.length text).bind _ = _
  cases readNumber text.length text <;> rfl

/-- A year behind a plus sign. -/
theorem readYear_plus (text : List Char) :
    readYear ('+' :: text) = (readNumber text.length text).map
      fun (n, rest) => (n, rest) := by
  show (readNumber text.length text).bind _ = _
  cases readNumber text.length text <;> rfl

/-- A year without a sign. -/
theorem readYear_plain (width n : Nat) (rest : List Char) :
    readYear (padded width n ++ rest)
      = (readNumber 4 (padded width n ++ rest)).map
      fun (n, rest) => (n, rest) := by
  have hdigit : ∀ {c text}, padded width n ++ rest = c :: text →
      c.isDigit = true := isDigit_of_padded_append_eq
  rw [readYear, skipBlanks_padded_append]
  split
  · next heq => exact absurd (hdigit heq) (by decide)
  · next heq => exact absurd (hdigit heq) (by decide)
  · cases readNumber 4 (padded width n ++ rest) <;> rfl

/-- A year is read back from in front of a hyphen. -/
theorem readYear_append (year : Int) (rest : List Char) :
    readYear (yearText year ++ '-' :: rest) = some (year, '-' :: rest) := by
  have hhyphen : ∀ c ∈ ('-' :: rest).head?, c.isDigit = false := by
    intro c hc
    cases hc
    rfl
  -- Behind a sign any number of digits is read, up to the hyphen.
  have hsigned : ∀ n, readNumber (padded 4 n ++ '-' :: rest).length
      (padded 4 n ++ '-' :: rest) = some (n, '-' :: rest) := by
    intro n
    refine readNumber_padded_append ?_ (.inr hhyphen)
    rw [List.length_append]
    exact Nat.le_add_right _ _
  unfold yearText
  by_cases hplain : 0 ≤ year ∧ year ≤ 9999
  · have hlength : (padded 4 year.toNat).length = 4 :=
      length_padded (by decide) (show year.toNat < 10000 by omega)
    have hread : readNumber 4 (padded 4 year.toNat ++ '-' :: rest)
        = some (year.toNat, '-' :: rest) :=
      readNumber_padded_append (Nat.le_of_eq hlength) (.inl hlength)
    rw [if_pos hplain, readYear_plain, hread]
    exact congrArg some (Prod.ext (Int.toNat_of_nonneg hplain.1) rfl)
  · rw [if_neg hplain]
    by_cases hneg : year < 0
    · rw [if_pos hneg, List.cons_append, readYear_minus, hsigned]
      have hyear : -(year.natAbs : Int) = year := by omega
      exact congrArg some (Prod.ext hyear rfl)
    · rw [if_neg hneg, List.cons_append, readYear_plus, hsigned]
      have hyear : (year.natAbs : Int) = year := by omega
      exact congrArg some (Prod.ext hyear rfl)

/-- A month or a day of a date is a number of two digits. -/
theorem lt_hundred_of_isValid {d : Date} (h : d.IsValid) :
    d.month < 100 ∧ d.day < 100 := by
  obtain ⟨-, hmonth, -, hday⟩ := h
  have hlength : Date.daysInMonth d.year d.month ≤ 31 := by
    unfold Date.daysInMonth
    repeat' split
    all_goals decide
  omega

/-- A date is read back, whatever is behind it. -/
theorem readDate_append {d : Date} (hvalid : d.IsValid)
    (hrange : inYearRange d = true) (rest : List Char) :
    readDate (dateText d ++ rest) = some (d, rest) := by
  obtain ⟨hmonth, hday⟩ := lt_hundred_of_isValid hvalid
  unfold dateText readDate
  simp only [List.append_assoc, List.cons_append]
  refine Option.bind_eq_some_iff.2 ⟨_, readYear_append d.year _, ?_⟩
  refine Option.bind_eq_some_iff.2
    ⟨_, readChar_skipBlanks_cons (by decide) _, ?_⟩
  refine Option.bind_eq_some_iff.2 ⟨_, readField_append hmonth _, ?_⟩
  refine Option.bind_eq_some_iff.2
    ⟨_, readChar_skipBlanks_cons (by decide) _, ?_⟩
  refine Option.bind_eq_some_iff.2 ⟨_, readField_append hday _, ?_⟩
  exact Option.bind_eq_some_iff.2 ⟨(), if_pos ⟨hvalid, hrange⟩, rfl⟩

/-- Decimals are read as the nanoseconds that they show. -/
theorem readFraction_decimals {width n : Nat} (hwidth : 0 < width)
    (hnine : width ≤ 9) (hn : n < Nat.pow 10 width) (rest : List Char) :
    readFraction ('.' :: padded width n ++ 'Z' :: rest)
      = some (n * Nat.pow 10 (9 - width), 'Z' :: rest) := by
  have hlength : (padded width n).length = width := length_padded hwidth hn
  have hrun : digitRun 9 (padded width n ++ 'Z' :: rest)
      = (padded width n, 'Z' :: rest) := by
    refine digitRun_append (fun _ => isDigit_of_mem_padded) (by omega) (.inr ?_)
    intro c hc
    cases hc
    rfl
  rw [List.cons_append, readFraction, hrun]
  cases hpadded : padded width n with
  | nil => exact absurd hpadded (padded_ne_nil width n)
  | cons c digits =>
      dsimp only
      rw [← hpadded, ofDigitChars_padded, hlength]
      rfl

/-- The decimals of a part of a second are read back. -/
theorem readFraction_append {nanos : Nat} (h : nanos < nanosPerSecond)
    (rest : List Char) :
    readFraction (fractionText nanos ++ 'Z' :: rest)
      = some (nanos, 'Z' :: rest) := by
  have hlimit : nanos < 1000000000 := h
  unfold fractionText
  by_cases hzero : nanos = 0
  · rw [if_pos hzero, hzero]
    rfl
  · rw [if_neg hzero]
    by_cases hmillis : nanos % 1000000 = 0
    · rw [if_pos hmillis, readFraction_decimals (by decide) (by decide)
        (show nanos / 1000000 < 1000 by omega)]
      exact congrArg some
        (Prod.ext (show nanos / 1000000 * 1000000 = nanos by omega) rfl)
    · rw [if_neg hmillis]
      by_cases hmicros : nanos % 1000 = 0
      · rw [if_pos hmicros, readFraction_decimals (by decide) (by decide)
          (show nanos / 1000 < 1000000 by omega)]
        exact congrArg some
          (Prod.ext (show nanos / 1000 * 1000 = nanos by omega) rfl)
      · rw [if_neg hmicros, readFraction_decimals (by decide) (by decide) hlimit]
        exact congrArg some (Prod.ext (Nat.mul_one nanos) rfl)

-- ========================================================= whole time stamps

/-- A nanosecond part that a second of a minute may have. -/
def HasNanos (second nanos : Nat) : Prop :=
  nanos < nanosPerSecond
    ∨ nanos < 2 * nanosPerSecond ∧ second % 60 = 59

/-- What is shown of a time of day is a second of at most 60 and a part of a
second; second 60 is shown for a leap second and for no other. -/
theorem shown_of_hasNanos {second nanos : Nat} (h : HasNanos second nanos) :
    let leap := nanosPerSecond ≤ nanos
    let shown := second % 60 + if leap then 1 else 0
    let fraction := if leap then nanos - nanosPerSecond else nanos
    shown ≤ 60 ∧ fraction < nanosPerSecond
      ∧ (if shown = 60 then 59 else shown) = second % 60
      ∧ (if shown = 60 then fraction + nanosPerSecond else fraction) = nanos := by
  unfold HasNanos at h
  unfold nanosPerSecond at h ⊢
  dsimp only
  by_cases hleap : 1000000000 ≤ nanos
  · have hlast : second % 60 = 59 := by omega
    rw [if_pos hleap, if_pos hleap, hlast]
    exact ⟨by decide, by omega, rfl, Nat.sub_add_cancel hleap⟩
  · have hnot : second % 60 + 0 ≠ 60 := by omega
    rw [if_neg hleap, if_neg hleap, if_neg hnot, if_neg hnot]
    omega

/-- A time of day is read back. -/
theorem readTime_append {second nanos : Nat} (hsecond : second < 86400)
    (hnanos : HasNanos second nanos) (rest : List Char) :
    readTime (timeText second nanos ++ 'Z' :: rest)
      = some ((second, nanos), 'Z' :: rest) := by
  obtain ⟨hshown, hfraction, hsecondBack, hnanosBack⟩ := shown_of_hasNanos hnanos
  unfold timeText readTime
  simp only [List.append_assoc, List.cons_append]
  refine Option.bind_eq_some_iff.2 ⟨_, readField_append (by omega) _, ?_⟩
  refine Option.bind_eq_some_iff.2
    ⟨_, readChar_skipBlanks_cons (by decide) _, ?_⟩
  refine Option.bind_eq_some_iff.2 ⟨_, readField_append (by omega) _, ?_⟩
  refine Option.bind_eq_some_iff.2
    ⟨_, readChar_skipBlanks_cons (by decide) _, ?_⟩
  refine Option.bind_eq_some_iff.2 ⟨_, readField_append (by omega) _, ?_⟩
  refine Option.bind_eq_some_iff.2 ⟨_, readFraction_append hfraction _, ?_⟩
  refine Option.bind_eq_some_iff.2 ⟨(), if_pos (by omega), ?_⟩
  refine congrArg some (Prod.ext (Prod.ext ?_ hnanosBack) rfl)
  dsimp only
  rw [hsecondBack]
  omega

/-- Decimals are less than a second. -/
theorem lt_of_readFraction {text rest : List Char} {nanos : Nat}
    (h : readFraction text = some (nanos, rest)) : nanos < nanosPerSecond := by
  unfold readFraction at h
  split at h
  · next text =>
      split at h
      · cases h
      · next digits _ _ hrun =>
          have hlength : digits.length ≤ 9 := by
            have hle := length_digitRun_le 9 text
            rwa [hrun] at hle
          have hdigits : ∀ c ∈ digits, c.isDigit = true := by
            intro c hc
            have hmem : c ∈ (digitRun 9 text).1 := by rwa [hrun]
            exact isDigit_of_mem_digitRun hmem
          have hlt := ofDigitChars_lt hdigits 0
          cases h
          calc _ < Nat.pow 10 digits.length * Nat.pow 10 (9 - digits.length) :=
                Nat.mul_lt_mul_of_pos_right (by rwa [Nat.mul_one] at hlt)
                  (Nat.pow_pos (by decide))
            _ = nanosPerSecond := by
                show 10 ^ digits.length * 10 ^ (9 - digits.length) = _
                rw [← Nat.pow_add, Nat.add_sub_cancel' hlength]
                rfl
  · cases h
    decide

/-- What is read as a time of day has a nanosecond part that its second may
have. -/
theorem hasNanos_of_readTime {text rest : List Char} {second nanos : Nat}
    (h : readTime text = some ((second, nanos), rest)) :
    HasNanos second nanos := by
  obtain ⟨⟨hour, _⟩, -, h⟩ := Option.bind_eq_some_iff.1 h
  obtain ⟨_, -, h⟩ := Option.bind_eq_some_iff.1 h
  obtain ⟨⟨minute, _⟩, -, h⟩ := Option.bind_eq_some_iff.1 h
  obtain ⟨_, -, h⟩ := Option.bind_eq_some_iff.1 h
  obtain ⟨⟨shown, _⟩, -, h⟩ := Option.bind_eq_some_iff.1 h
  obtain ⟨⟨fraction, _⟩, hfraction, h⟩ := Option.bind_eq_some_iff.1 h
  obtain ⟨_, -, h⟩ := Option.bind_eq_some_iff.1 h
  have hlt := lt_of_readFraction hfraction
  unfold nanosPerSecond at hlt
  cases h
  unfold HasNanos nanosPerSecond
  by_cases hleap : shown = 60
  · rw [if_pos hleap, if_pos hleap]
    exact .inr (by omega)
  · rw [if_neg hleap]
    exact .inl hlt

/-- Hours and minutes are a number of minutes. -/
theorem offset_of_readHoursMinutes {text rest : List Char} {offset : Int}
    (h : readHoursMinutes text = some (offset, rest)) : offset % 60 = 0 := by
  obtain ⟨⟨hours, _⟩, -, h⟩ := Option.bind_eq_some_iff.1 h
  obtain ⟨⟨minutes, _⟩, -, h⟩ := Option.bind_eq_some_iff.1 h
  obtain ⟨_, -, h⟩ := Option.bind_eq_some_iff.1 h
  cases h
  omega

/-- An offset is a number of minutes. -/
theorem offset_of_readOffset {text rest : List Char} {offset : Int}
    (h : readOffset text = some (offset, rest)) : offset % 60 = 0 := by
  unfold readOffset at h
  split at h
  · cases h
    rfl
  · split at h
    · cases h
      rfl
    · cases h
      rfl
    · exact offset_of_readHoursMinutes h
    · obtain ⟨⟨offset', _⟩, hoffset, h⟩ := Option.map_eq_some_iff.1 h
      cases h
      have hminutes := offset_of_readHoursMinutes hoffset
      omega
    · obtain ⟨⟨offset', _⟩, hoffset, h⟩ := Option.map_eq_some_iff.1 h
      cases h
      have hminutes := offset_of_readHoursMinutes hoffset
      omega
    · cases h

/-- The text of an instant that has one is read as the instant. -/
theorem read?_text {t : Instant} (h : t.Representable) :
    read? t.text = some t := by
  obtain ⟨hrange, hnanos⟩ := h
  have hdays := Date.toDays_ofDays t.days
  unfold read? text readChars
  rw [String.toList_ofList]
  simp only [List.append_assoc, List.cons_append]
  refine Option.bind_eq_some_iff.2
    ⟨_, readDate_append (Date.isValid_ofDays t.days) hrange _, ?_⟩
  refine Option.bind_eq_some_iff.2 ⟨_, rfl, ?_⟩
  have hsecond : t.secondOfDay < 86400 := by
    unfold secondOfDay secondsPerDay
    omega
  refine Option.bind_eq_some_iff.2 ⟨_, readTime_append hsecond hnanos _, ?_⟩
  refine Option.bind_eq_some_iff.2 ⟨(0, []), rfl, ?_⟩
  refine Option.bind_eq_some_iff.2 ⟨(), if_pos rfl, ?_⟩
  have hback : (Date.ofDays t.days).toDays * secondsPerDay
      + t.secondOfDay - 0 = t.seconds := by
    rw [hdays]
    unfold days secondOfDay secondsPerDay
    omega
  dsimp only
  rw [hback]
  exact Option.bind_eq_some_iff.2 ⟨(), if_pos hrange, rfl⟩

/-- What is read has a text. -/
theorem representable_of_read? {text : String} {t : Instant}
    (h : read? text = some t) : t.Representable := by
  obtain ⟨⟨date, _⟩, -, h⟩ := Option.bind_eq_some_iff.1 h
  obtain ⟨_, -, h⟩ := Option.bind_eq_some_iff.1 h
  obtain ⟨⟨⟨second, nanos⟩, _⟩, htime, h⟩ := Option.bind_eq_some_iff.1 h
  obtain ⟨⟨offset, _⟩, hoffset, h⟩ := Option.bind_eq_some_iff.1 h
  obtain ⟨_, -, h⟩ := Option.bind_eq_some_iff.1 h
  dsimp only at h
  obtain ⟨_, hrange, h⟩ := Option.bind_eq_some_iff.1 h
  cases h
  have hminutes := offset_of_readOffset hoffset
  refine ⟨?_, (hasNanos_of_readTime htime).imp_right (.imp_right ?_)⟩
  · exact (Option.guard_eq_some' _).1 hrange
  · -- An offset of whole minutes leaves the second of the minute as it was.
    intro hlast
    unfold secondOfDay secondsPerDay
    dsimp only
    omega

-- ================================================================== the law

/-- A year of the range has a short text. -/
theorem length_yearText_le {d : Date} (h : inYearRange d = true) :
    (yearText d.year).length ≤ 7 := by
  have hsix : d.year.natAbs < 1000000 := by
    unfold inYearRange yearRange at h
    simp only [Bool.and_eq_true, decide_eq_true_eq] at h
    omega
  have hsigned : (padded 4 d.year.natAbs).length ≤ 6 :=
    length_padded_le (by decide) (by decide) hsix
  have hplain : (padded 4 d.year.toNat).length ≤ 6 :=
    length_padded_le (by decide) (by decide)
      (show d.year.toNat < 1000000 by omega)
  unfold yearText
  split
  · omega
  · exact Nat.succ_le_succ hsigned

/-- The decimals of a part of a second are short. -/
theorem length_fractionText_le {nanos : Nat} (h : nanos < nanosPerSecond) :
    (fractionText nanos).length ≤ 10 := by
  have hnine : ∀ {width n}, width ≤ 9 → n ≤ nanos →
      ('.' :: padded width n).length ≤ 10 := by
    intro width n hwidth hn
    exact Nat.succ_le_succ
      (length_padded_le hwidth (by decide) (Nat.lt_of_le_of_lt hn h))
  unfold fractionText
  split
  · exact Nat.zero_le _
  · split
    · exact hnine (by decide) (Nat.div_le_self _ _)
    · split
      · exact hnine (by decide) (Nat.div_le_self _ _)
      · exact hnine (by decide) (Nat.le_refl _)

/-- The text of an instant has at most 33 characters. -/
theorem fits_text {t : Instant} (h : t.Representable) :
    Format.text.fits t.text := by
  obtain ⟨hrange, hnanos⟩ := h
  obtain ⟨hmonth, hday⟩ := lt_hundred_of_isValid (Date.isValid_ofDays t.days)
  obtain ⟨hshown, hfraction, -, -⟩ := shown_of_hasNanos hnanos
  have htwo : ∀ {n}, n < 100 → (padded 2 n).length = 2 :=
    fun h => length_padded (by decide) h
  have hsecond : t.secondOfDay < 86400 := by
    unfold secondOfDay secondsPerDay
    omega
  have hyear := length_yearText_le hrange
  have hdecimals := length_fractionText_le hfraction
  have hchars : (dateText (Date.ofDays t.days)
      ++ 'T' :: timeText t.secondOfDay t.nanos ++ ['Z']).length ≤ 33 := by
    unfold dateText timeText
    simp only [List.length_append, List.length_cons, List.length_nil]
    rw [htwo hmonth, htwo hday, htwo (show t.secondOfDay / 3600 < 100 by omega),
      htwo (show t.secondOfDay / 60 % 60 < 100 by omega), htwo (by omega)]
    omega
  have hbytes := Format.length_textBytes_ofList_le (dateText (Date.ofDays t.days)
    ++ 'T' :: timeText t.secondOfDay t.nanos ++ ['Z'])
  show (Format.textBytes t.text).length < 18446744073709551616
  unfold text
  omega

instance : format.Lawful := by
  refine Format.Lawful.convert ?_ ?_
  · intro t ht
    refine ⟨fits_text ht, ?_⟩
    rw [ofText, read?_text ht]
  · intro s t _ h
    unfold ofText at h
    split at h
    · next heq =>
        cases h
        exact representable_of_read? heq
    · cases h

end Instant

end SigningOrder
