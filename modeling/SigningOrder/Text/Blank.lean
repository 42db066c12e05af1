/-
Blank characters: those with the white-space property, wherever they come from.
A time stamp may have them between its fields.
-/

namespace SigningOrder.Text

/-- The ranges of the white-space property. -/
def blankRanges : List (Nat × Nat) :=
  [(0x9, 0xd), (0x20, 0x20), (0x85, 0x85), (0xa0, 0xa0), (0x1680, 0x1680),
    (0x2000, 0x200a), (0x2028, 0x2029), (0x202f, 0x202f), (0x205f, 0x205f),
    (0x3000, 0x3000)]

/-- Whether a character is blank. -/
def isBlank (c : Char) : Bool :=
  blankRanges.any fun (low, high) => low ≤ c.toNat && c.toNat ≤ high

/-- A text without the blanks at its head. -/
def skipBlanks (text : List Char) : List Char :=
  text.dropWhile isBlank

end SigningOrder.Text
