/-
Numbers, dates and times in TOML. A configuration holds only whole numbers; a
fraction, a date or a time is read for its form, so that it may stand under a
name that nobody asks for. A fraction is no value of the model; a date or a
time has parts of its own, none of which the model knows, and reads as a table
without entries.
-/
import SigningOrder.Calendar
import SigningOrder.Document
import SigningOrder.Toml.Text

namespace SigningOrder

namespace Toml

-- ============================================================= whole numbers

/-- The digits at the head of a text, with single underscores between them, and
the rest. An underscore that no digit follows is an error. -/
def digitGroup (isDigit : Char → Bool) : Reader (List Char)
  | [] => some ([], [])
  | '_' :: c :: rest =>
    if isDigit c then withChar c (digitGroup isDigit rest) else none
  | c :: rest =>
    if isDigit c then withChar c (digitGroup isDigit rest)
    else if c == '_' then none
    else some ([], c :: rest)

/-- Reads a digit, and further digits with single underscores between them. -/
def digits (isDigit : Char → Bool) : Reader (List Char)
  | [] => none
  | c :: rest =>
    if isDigit c then withChar c (digitGroup isDigit rest) else none

/-- Reads a sign: whether the number is below zero. -/
def sign : List Char → Bool × List Char
  | '-' :: rest => (true, rest)
  | '+' :: rest => (false, rest)
  | text => (false, text)

/-- Reads the digits of a decimal number: a lone zero, or digits that begin
with another. -/
def decimalDigits : Reader (List Char)
  | '0' :: rest => some (['0'], rest)
  | text => digits Char.isDigit text

/-- A whole number, if it fits 64 bits with a sign. -/
def wholeNumber (n : Int) : Option Document :=
  if Int64.minValue.toInt ≤ n ∧ n ≤ Int64.maxValue.toInt then some (.int n)
  else none

/-- Reads digits of a base behind its mark. -/
def based (base : Nat) (isDigit : Char → Bool) : Reader Document :=
  fun text => do
  let (ds, rest) ← digits isDigit text
  let values ← ds.mapM Hex.digit?
  let d ← wholeNumber (values.foldl (fun n d => base * n + d) 0 : Nat)
  return (d, rest)

/-- Reads a whole number. -/
def integer : Reader Document
  | '0' :: 'x' :: rest => based 16 (fun c => (Hex.digit? c).isSome) rest
  | '0' :: 'o' :: rest => based 8 (fun c => '0' ≤ c && c ≤ '7') rest
  | '0' :: 'b' :: rest => based 2 (fun c => c == '0' || c == '1') rest
  | text => do
    let (negative, rest) := sign text
    let (ds, rest) ← decimalDigits rest
    let n : Int := Nat.ofDigitChars 10 ds 0
    let d ← wholeNumber (if negative then -n else n)
    return (d, rest)

-- ================================================================= fractions

/-- The largest value that is rounded to a finite double, and the half step
above it. -/
def doubleLimit : Nat := Nat.pow 2 1024 - Nat.pow 2 970

/-- Whether the digits times a power of ten are too large for a double. -/
def overflows (ds : List Char) (exponent : Int) : Bool :=
  let n := Nat.ofDigitChars 10 ds 0
  let places : Int := (Nat.toDigits 10 n).length + exponent
  if n = 0 then false
  else if 400 < places then true
  else if places < 300 then false
  else if 0 ≤ exponent then doubleLimit ≤ n * Nat.pow 10 exponent.toNat
  else doubleLimit * Nat.pow 10 (-exponent).toNat ≤ n

/-- Reads an exponent. -/
def exponent (text : List Char) : Option (Int × List Char) :=
  match text with
  | c :: rest =>
    if c == 'e' || c == 'E' then do
      let (negative, rest) := sign rest
      let (ds, rest) ← digits Char.isDigit rest
      let n : Int := Nat.ofDigitChars 10 ds 0
      return (if negative then -n else n, rest)
    else none
  | [] => none

/-- Reads the decimals of a fraction. -/
def decimals : Reader (List Char)
  | '.' :: rest => digits Char.isDigit rest
  | _ => none

/-- Reads a fraction: a number with decimals, with an exponent, or with both. -/
def fraction (text : List Char) : Option (Document × List Char) := do
  let (negative, rest) := sign text
  let (whole, rest) ← decimalDigits rest
  let (part, rest) ←
    (decimals rest).orElse fun _ => (exponent rest).map fun _ => ([], rest)
  let (power, rest) := (exponent rest).getD (0, rest)
  guard (negative || !overflows (whole ++ part) (power - part.length))
  return (.other, rest)

/-- Reads an infinite value or one that is no number. -/
def specialNumber (text : List Char) : Option (Document × List Char) :=
  let (_, rest) := sign text
  (literal "inf".toList rest <|> literal "nan".toList rest).map
    fun rest => (.other, rest)

-- =========================================================== dates and times

/-- Reads a number of exactly so many digits. -/
def fixedDigits (count : Nat) (text : List Char) : Option (Nat × List Char) :=
  let ds := text.take count
  if ds.length = count ∧ ds.all Char.isDigit then
    some (Nat.ofDigitChars 10 ds 0, text.drop count)
  else none

/-- Reads a date that names a day. -/
def date (text : List Char) : Option (List Char) := do
  let (year, rest) ← fixedDigits 4 text
  let rest ← literal ['-'] rest
  let (month, rest) ← fixedDigits 2 rest
  let rest ← literal ['-'] rest
  let (day, rest) ← fixedDigits 2 rest
  guard (Date.IsValid ⟨year, month, day⟩)
  return rest

/-- Reads the decimals of a second, if it has any. -/
def secondDecimals (text : List Char) : Option (List Char) :=
  match text with
  | '.' :: c :: rest =>
    if c.isDigit then some (rest.dropWhile Char.isDigit) else none
  | text => some text

/-- Reads a time of day. -/
def time (text : List Char) : Option (List Char) := do
  let (hour, rest) ← fixedDigits 2 text
  let rest ← literal [':'] rest
  let (minute, rest) ← fixedDigits 2 rest
  let rest ← literal [':'] rest
  let (second, rest) ← fixedDigits 2 rest
  guard (hour ≤ 23 ∧ minute ≤ 59 ∧ second ≤ 60)
  secondDecimals rest

/-- Reads an offset, if there is one. -/
def offset (text : List Char) : Option (List Char) :=
  match text with
  | 'Z' :: rest => some rest
  | 'z' :: rest => some rest
  | c :: rest =>
    if c == '+' || c == '-' then do
      let (hour, rest) ← fixedDigits 2 rest
      let rest ← literal [':'] rest
      let (minute, rest) ← fixedDigits 2 rest
      guard (hour ≤ 23 ∧ minute ≤ 59)
      return rest
    else some text
  | [] => some []

/-- Reads the time and the offset that may follow a date. -/
def timeAfterDate (text : List Char) : Option (List Char) :=
  match text with
  | c :: rest =>
    if c == 'T' || c == 't' || c == ' ' then
      match time rest with
      | some rest => offset rest
      | none => some text
    else some text
  | [] => some []

/-- Reads a date, a time, or both. -/
def dateTime (text : List Char) : Option (Document × List Char) :=
  match date text with
  | some rest => (timeAfterDate rest).map fun rest => (.object [], rest)
  | none => (time text).map fun rest => (.object [], rest)

/-- Reads a number, a date or a time. -/
def number (text : List Char) : Option (Document × List Char) :=
  dateTime text <|> fraction text <|> specialNumber text <|> integer text

end Toml

end SigningOrder
