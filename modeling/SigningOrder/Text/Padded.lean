/-
Numerals of a least width, filled with leading zeros, and the runs of digits
that read them back. Time stamps are made of such fields.
-/

namespace SigningOrder.Text

/-- A numeral with zeros in front up to a least width. -/
def padded (width n : Nat) : List Char :=
  let digits := Nat.toDigits 10 n
  List.replicate (width - digits.length) '0' ++ digits

/-- The digits at the head of a text, at most `limit` of them, and what
follows. -/
def digitRun : (limit : Nat) → List Char → List Char × List Char
  | 0, text => ([], text)
  | _, [] => ([], [])
  | limit + 1, c :: text =>
    if c.isDigit then
      let (digits, rest) := digitRun limit text
      (c :: digits, rest)
    else ([], c :: text)

/-- Reads a number of one to `limit` digits. -/
def readNumber (limit : Nat) (text : List Char) : Option (Nat × List Char) :=
  match digitRun limit text with
  | ([], _) => none
  | (digits, rest) => some (Nat.ofDigitChars 10 digits 0, rest)

end SigningOrder.Text
