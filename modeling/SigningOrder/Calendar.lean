/-
The proleptic Gregorian calendar as arithmetic. A date is a year, a month and a
day; a day number counts days from 1 January 1970. Both directions go through a
year that starts in March, so that a leap day is the last of its year and the
lengths of months follow one linear rule. `Instant/Text.lean` reads and writes
time stamps with them.
-/

namespace SigningOrder

/-- A calendar date; `Date.IsValid` says which triples name a day. -/
structure Date where
  year : Int
  month : Nat
  day : Nat
  deriving DecidableEq, Repr

namespace Date

/-- Every fourth year is a leap year, except the centuries that 400 does not
divide. -/
def isLeapYear (year : Int) : Bool :=
  year % 4 == 0 && (year % 100 != 0 || year % 400 == 0)

/-- The number of days of a month. -/
def daysInMonth (year : Int) (month : Nat) : Nat :=
  match month with
  | 2 => if isLeapYear year then 29 else 28
  | 4 | 6 | 9 | 11 => 30
  | _ => 31

/-- Whether a triple names a day. -/
def IsValid (d : Date) : Prop :=
  1 ≤ d.month ∧ d.month ≤ 12 ∧ 1 ≤ d.day ∧ d.day ≤ daysInMonth d.year d.month

instance (d : Date) : Decidable d.IsValid :=
  inferInstanceAs (Decidable (_ ∧ _))

/-- The day of 1 March of year 0, counted from 1 January 1970. -/
def marchEpoch : Int := -719468

/-- Days in the years before the March year `y`, counted from March of year
0. -/
def daysBeforeYear (y : Int) : Int :=
  365 * y + y / 4 - y / 100 + y / 400

/-- Days in the months before the month `m` of a March year, March being month
0. -/
def daysBeforeMonth (m : Nat) : Nat :=
  (153 * m + 2) / 5

/-- The day number of a date. -/
def toDays (d : Date) : Int :=
  if d.month ≤ 2 then
    marchEpoch + daysBeforeYear (d.year - 1) + daysBeforeMonth (d.month + 9) +
      (d.day - 1)
  else
    marchEpoch + daysBeforeYear d.year + daysBeforeMonth (d.month - 3) +
      (d.day - 1)

/-- The date of day `n` of the March year `y`, its days counted from 0. -/
def ofDayOfYear (y : Int) (n : Nat) : Date :=
  let m := (5 * n + 2) / 153
  let day := n - daysBeforeMonth m + 1
  if m < 10 then ⟨y, m + 3, day⟩ else ⟨y + 1, m - 9, day⟩

/-- The date of a day number: whole periods of 400, 100, 4 and 1 years are
taken off in turn, where the last century and the last year of their periods
hold one day more. -/
def ofDays (days : Int) : Date :=
  let n := days - marchEpoch
  let era := n / 146097
  let inEra := (n % 146097).toNat
  let century := min (inEra / 36524) 3
  let inCentury := inEra - century * 36524
  let olympiad := inCentury / 1461
  let inOlympiad := inCentury - olympiad * 1461
  let annum := min (inOlympiad / 365) 3
  let inYear := inOlympiad - annum * 365
  ofDayOfYear (400 * era + (100 * century + 4 * olympiad + annum : Nat)) inYear

end Date

end SigningOrder
