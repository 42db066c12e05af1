/-
The text of a time stamp. An instant prints in UTC with the fewest of no,
three, six or nine decimals that are exact, a leap second as second 60. Reading
is more generous: the offset may be any number of hours and minutes, blanks may
stand between the fields and at both ends, and a year with a sign may have any
number of digits. Records hold instants as these texts.
-/
import SigningOrder.Calendar
import SigningOrder.Instant
import SigningOrder.Text.Blank
import SigningOrder.Text.Padded

namespace SigningOrder

namespace Instant

/-- The first and the last year of the dates that a time stamp may name. -/
def yearRange : Int × Int := (-262143, 262142)

/-- Whether a date lies in the years of time stamps. -/
def inYearRange (d : Date) : Bool :=
  yearRange.1 ≤ d.year && d.year ≤ yearRange.2

/-- The day number of an instant. -/
def days (t : Instant) : Int := t.seconds / secondsPerDay

/-- The second of its day in which an instant lies. -/
def secondOfDay (t : Instant) : Nat := (t.seconds % secondsPerDay).toNat

/-- A year has four digits, and outside of those a sign and at least four. -/
def yearText (year : Int) : List Char :=
  if 0 ≤ year ∧ year ≤ 9999 then Text.padded 4 year.toNat
  else (if year < 0 then '-' else '+') :: Text.padded 4 year.natAbs

/-- The decimals of a nanosecond part, as few groups of three as are exact. -/
def fractionText (nanos : Nat) : List Char :=
  if nanos = 0 then []
  else if nanos % 1000000 = 0 then '.' :: Text.padded 3 (nanos / 1000000)
  else if nanos % 1000 = 0 then '.' :: Text.padded 6 (nanos / 1000)
  else '.' :: Text.padded 9 nanos

/-- A time of day, where a leap second counts one second more. -/
def timeText (second nanos : Nat) : List Char :=
  let leap := nanosPerSecond ≤ nanos
  let shown := second % 60 + (if leap then 1 else 0)
  let fraction := if leap then nanos - nanosPerSecond else nanos
  Text.padded 2 (second / 3600) ++ ':' :: Text.padded 2 (second / 60 % 60) ++
    ':' :: Text.padded 2 shown ++ fractionText fraction

/-- The text of a date. -/
def dateText (d : Date) : List Char :=
  yearText d.year ++ '-' :: Text.padded 2 d.month ++ '-' :: Text.padded 2 d.day

/-- The text of an instant. -/
def text (t : Instant) : String :=
  String.ofList
    (dateText (Date.ofDays t.days)
      ++ 'T' :: timeText t.secondOfDay t.nanos ++ ['Z'])

/-- Reads a given character. -/
def readChar (c : Char) : List Char → Option (List Char)
  | [] => none
  | d :: rest => if d = c then some rest else none

/-- Reads a field of one or two digits, with blanks before it. -/
def readField (text : List Char) : Option (Nat × List Char) :=
  Text.readNumber 2 (Text.skipBlanks text)

/-- Reads a year: up to four digits, or a sign and any number of them. -/
def readYear (text : List Char) : Option (Int × List Char) :=
  match Text.skipBlanks text with
  | '-' :: rest => do
    let (n, rest) ← Text.readNumber rest.length rest
    return (-n, rest)
  | '+' :: rest => do
    let (n, rest) ← Text.readNumber rest.length rest
    return (n, rest)
  | text => do
    let (n, rest) ← Text.readNumber 4 text
    return (n, rest)

/-- Reads a date that names a day in the range of years. -/
def readDate (text : List Char) : Option (Date × List Char) := do
  let (year, text) ← readYear text
  let text ← readChar '-' (Text.skipBlanks text)
  let (month, text) ← readField text
  let text ← readChar '-' (Text.skipBlanks text)
  let (day, text) ← readField text
  let date : Date := ⟨year, month, day⟩
  guard (date.IsValid ∧ inYearRange date)
  return (date, text)

/-- Reads the letter, or the space, between a date and a time. -/
def readSeparator : List Char → Option (List Char)
  | c :: rest => if c = 'T' ∨ c = 't' ∨ c = ' ' then some rest else none
  | [] => none

/-- Reads decimals as nanoseconds; those after the ninth are dropped. -/
def readFraction : List Char → Option (Nat × List Char)
  | '.' :: text =>
    match Text.digitRun 9 text with
    | ([], _) => none
    | (digits, rest) =>
      some (Nat.ofDigitChars 10 digits 0 * Nat.pow 10 (9 - digits.length),
        rest.dropWhile Char.isDigit)
  | text => some (0, text)

/-- Reads a time of day as its second and its nanoseconds; second 60 is second
59 with a nanosecond part of a leap second. -/
def readTime (text : List Char) : Option ((Nat × Nat) × List Char) := do
  let (hour, text) ← readField text
  let text ← readChar ':' (Text.skipBlanks text)
  let (minute, text) ← readField text
  let text ← readChar ':' (Text.skipBlanks text)
  let (second, text) ← readField text
  let (nanos, text) ← readFraction text
  guard (hour ≤ 23 ∧ minute ≤ 59 ∧ second ≤ 60)
  let leap := second = 60
  let shown := if leap then 59 else second
  let nanos := if leap then nanos + nanosPerSecond else nanos
  return ((3600 * hour + 60 * minute + shown, nanos), text)

/-- Reads exactly two digits. -/
def readTwoDigits : List Char → Option (Nat × List Char)
  | c :: d :: rest =>
    if c.isDigit ∧ d.isDigit then some (Nat.ofDigitChars 10 [c, d] 0, rest)
    else none
  | _ => none

/-- Reads hours and minutes of an offset, with colons or blanks between them,
as seconds. -/
def readHoursMinutes (text : List Char) : Option (Int × List Char) := do
  let (hours, text) ← readTwoDigits text
  let (minutes, text) ←
    readTwoDigits (text.dropWhile fun c => c = ':' || Text.isBlank c)
  guard (minutes ≤ 59 ∧ hours ≤ 23)
  return (3600 * hours + 60 * minutes, text)

/-- Reads an offset from UTC: its name, its letter, or a sign, hours and
minutes. -/
def readOffset (text : List Char) : Option (Int × List Char) :=
  if (text.take 3).map Char.toUpper = ['U', 'T', 'C'] then some (0, text.drop 3)
  else
    match text with
    | 'Z' :: rest => some (0, rest)
    | 'z' :: rest => some (0, rest)
    | '+' :: rest => readHoursMinutes rest
    | '-' :: rest => (readHoursMinutes rest).map fun (s, rest) => (-s, rest)
    | '\u2212' :: rest =>
      (readHoursMinutes rest).map fun (s, rest) => (-s, rest)
    | _ => none

/-- Reads a time stamp, behind which only blanks may stand. The day it names in
UTC must be in the range of years too. -/
def readChars (text : List Char) : Option Instant := do
  let (date, text) ← readDate text
  let text ← readSeparator text
  let ((second, nanos), text) ← readTime text
  let (offset, text) ← readOffset (Text.skipBlanks text)
  guard (Text.skipBlanks text = [])
  let t : Instant := ⟨date.toDays * secondsPerDay + second - offset, nanos⟩
  guard (inYearRange (Date.ofDays t.days))
  return t

/-- Reads a time stamp. -/
def read? (text : String) : Option Instant :=
  readChars text.toList

end Instant

end SigningOrder
