/-
The calendar in both directions: the date of a day number names a day
(`Date.isValid_ofDays`), and its day number is the one it was taken from
(`Date.toDays_ofDays`).

A day is first placed in a year that starts in March. The periods that are
taken off are the days before that year (`ofDays_eq`), and what is left is a
day of it: the 366th only where February, its last month, has 29 days.
-/
import Mathlib.Tactic.IntervalCases
import SigningOrder.Calendar

namespace SigningOrder

namespace Date

-- ======================================================= days of March years

/-- Whether there is a day of that number, from 0, in a March year. Its
February lies in the calendar year behind it. -/
def InMarchYear (y : Int) (n : Nat) : Prop :=
  n < 365 ∨ n = 365 ∧ isLeapYear (y + 1) = true

/-- The months of a March year but the last are as long as the rule for their
beginnings says. -/
theorem daysInMonth_march (y : Int) {m : Nat} (hm : m < 10) :
    daysInMonth y (m + 3) = daysBeforeMonth (m + 1) - daysBeforeMonth m := by
  interval_cases m <;> rfl

/-- A day of a March year is a day of the calendar. -/
theorem isValid_ofDayOfYear {y : Int} {n : Nat} (h : InMarchYear y n) :
    (ofDayOfYear y n).IsValid := by
  unfold ofDayOfYear
  by_cases hm : (5 * n + 2) / 153 < 10
  · have hlength := daysInMonth_march y hm
    rw [if_pos hm]
    unfold daysBeforeMonth at hlength ⊢
    refine ⟨Nat.le_add_left _ _, ?_, Nat.le_add_left _ _, ?_⟩
    all_goals
      dsimp only
      omega
  · rw [if_neg hm]
    have hlast : (5 * n + 2) / 153 = 10 ∨ (5 * n + 2) / 153 = 11 := by
      rcases h with h | ⟨rfl, -⟩ <;> omega
    rcases hlast with hlast | hlast
    · rw [hlast]
      refine ⟨(by decide : 1 ≤ 1), (by decide : 1 ≤ 12), Nat.le_add_left _ _, ?_⟩
      show n - 306 + 1 ≤ 31
      omega
    · rw [hlast]
      refine ⟨(by decide : 1 ≤ 2), (by decide : 2 ≤ 12), Nat.le_add_left _ _, ?_⟩
      show n - 337 + 1 ≤ if isLeapYear (y + 1) then 29 else 28
      rcases h with h | ⟨rfl, hleap⟩
      · split <;> omega
      · rw [if_pos hleap]

/-- The day number of a day of a March year. -/
theorem toDays_ofDayOfYear {y : Int} {n : Nat} (h : InMarchYear y n) :
    (ofDayOfYear y n).toDays = marchEpoch + daysBeforeYear y + n := by
  have hn : n ≤ 365 := by
    rcases h with h | ⟨rfl, -⟩ <;> omega
  unfold ofDayOfYear toDays daysBeforeMonth
  by_cases hm : (5 * n + 2) / 153 < 10
  · rw [if_pos hm, if_neg (by dsimp only; omega)]
    dsimp only
    omega
  · rw [if_neg hm, if_pos (by dsimp only; omega)]
    dsimp only
    rw [Int.add_sub_cancel]
    omega

-- ============================================================== day numbers

/-- The date of a day number is a day of a March year, behind the days before
that year. -/
theorem ofDays_eq (days : Int) :
    ∃ y n, InMarchYear y n ∧ ofDays days = ofDayOfYear y n
      ∧ days = marchEpoch + daysBeforeYear y + n := by
  unfold ofDays
  extract_lets n era inEra century inCentury olympiad inOlympiad annum inYear
  refine ⟨_, inYear, ?_, rfl, ?_⟩
  · -- A 366th day is left over in the last year of an olympiad, and in that of
    -- a century only if the century is the last of its era.
    unfold InMarchYear isLeapYear
    simp only [Bool.and_eq_true, Bool.or_eq_true, beq_iff_eq, bne_iff_ne]
    omega
  · have hcentury : century ≤ 3 := Nat.min_le_right _ _
    have hannum : annum ≤ 3 := Nat.min_le_right _ _
    have holympiad : olympiad ≤ 24 := by omega
    have hfours : (400 * era + (100 * century + 4 * olympiad + annum : Nat)) / 4
        = 100 * era + 25 * century + olympiad := by omega
    have hhundreds :
        (400 * era + (100 * century + 4 * olympiad + annum : Nat)) / 100
          = 4 * era + century := by omega
    have heras : (400 * era + (100 * century + 4 * olympiad + annum : Nat)) / 400
        = era := by omega
    rw [daysBeforeYear, hfours, hhundreds, heras]
    omega

/-- The date of a day number names a day. -/
theorem isValid_ofDays (days : Int) : (ofDays days).IsValid := by
  obtain ⟨y, n, hday, heq, -⟩ := ofDays_eq days
  rw [heq]
  exact isValid_ofDayOfYear hday

/-- The day number of the date of a day number is that number. -/
theorem toDays_ofDays (days : Int) : (ofDays days).toDays = days := by
  obtain ⟨y, n, hday, heq, hdays⟩ := ofDays_eq days
  rw [heq, toDays_ofDayOfYear hday, ← hdays]

end Date

end SigningOrder
