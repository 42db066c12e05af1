/-
Quoted texts, as error messages show the input they refuse. A quote, a
backslash and the four named control characters are escaped by a backslash and
a letter, every other unprintable character by its code point in braces, and
all else stands as it is.
-/
import SigningOrder.Text.Unprintable

namespace SigningOrder.Text

/-- The escape of a character that is shown by its code point. -/
def codePoint (c : Char) : List Char :=
  ['\\', 'u', '\x7b'] ++ Nat.toDigits 16 c.toNat ++ ['\x7d']

/-- A character as it stands between the quotes. -/
def quoteChar (c : Char) : List Char :=
  match c with
  | '\x00' => ['\\', '0']
  | '\t' => ['\\', 't']
  | '\r' => ['\\', 'r']
  | '\n' => ['\\', 'n']
  | '"' => ['\\', '"']
  | '\\' => ['\\', '\\']
  | c => if isUnprintable c then codePoint c else [c]

/-- A text between quotes, with its special characters escaped. -/
def quoted (text : String) : String :=
  String.ofList ('"' :: text.toList.flatMap quoteChar ++ ['"'])

end SigningOrder.Text
