/-
The lexical parts of configuration texts in TOML: blanks, comments and line
ends, the four kinds of quoted strings, and keys. Each reader takes its part
from the front of a text and returns the rest; `Toml/Parse.lean` puts them
together.
-/
import SigningOrder.Bytes

namespace SigningOrder

namespace Toml

/-- A reader of a part of a text. -/
abbrev Reader (α : Type) := List Char → Option (α × List Char)

/-- Reads a given text. -/
def literal (expected : List Char) (text : List Char) : Option (List Char) :=
  if expected.isPrefixOf text then some (text.drop expected.length) else none

-- ========================================================== blanks and lines

/-- Whether a character is a blank within a line. -/
def isLineBlank (c : Char) : Bool :=
  c == ' ' || c == '\t'

/-- A text without the blanks at its head. -/
def skipLineBlanks (text : List Char) : List Char :=
  text.dropWhile isLineBlank

/-- Reads the end of a line. -/
def newline : List Char → Option (List Char)
  | '\n' :: rest => some rest
  | '\r' :: '\n' :: rest => some rest
  | _ => none

/-- Whether a character may stand in a comment or a string as it is. -/
def isPlain (c : Char) : Bool :=
  c == '\t' || (0x20 ≤ c.toNat && c.toNat != 0x7f)

/-- A text without the comment at its head, if it has one. -/
def skipComment : List Char → List Char
  | '#' :: rest => rest.dropWhile isPlain
  | text => text

/-- Reads what may follow a statement: blanks, a comment, and the end of the
line or of the text. -/
def lineEnd (text : List Char) : Option (List Char) :=
  match skipComment (skipLineBlanks text) with
  | [] => some []
  | rest => newline rest

/-- Skips blanks, comments and line ends, up to so many lines. -/
def skipLines : (lines : Nat) → List Char → List Char
  | 0, text => text
  | lines + 1, text =>
    let rest := skipLineBlanks text
    match newline (skipComment rest) with
    | some next => skipLines lines next
    | none => rest

/-- A text without the blanks, comments and line ends at its head. -/
def skipBlankLines (text : List Char) : List Char :=
  skipLines text.length text

-- =================================================================== strings

/-- The character of a code point in hexadecimal digits. -/
def codePoint (digits : List Char) : Option Char := do
  let values ← digits.mapM Hex.digit?
  let n := values.foldl (fun n d => 16 * n + d) 0
  if n.isValidChar then some (Char.ofNat n) else none

/-- Reads the code point of an escape. -/
def escapedPoint (count : Nat) (text : List Char) :
    Option (Char × List Char) := do
  let digits := text.take count
  guard (digits.length = count)
  let c ← codePoint digits
  return (c, text.drop count)

/-- Reads what follows a backslash. -/
def escaped : Reader Char
  | 'b' :: rest => some ('\x08', rest)
  | 't' :: rest => some ('\t', rest)
  | 'n' :: rest => some ('\n', rest)
  | 'f' :: rest => some ('\x0c', rest)
  | 'r' :: rest => some ('\r', rest)
  | '"' :: rest => some ('"', rest)
  | '\\' :: rest => some ('\\', rest)
  | 'u' :: rest => escapedPoint 4 rest
  | 'U' :: rest => escapedPoint 8 rest
  | _ => none

/-- Adds a character to what a reader read. -/
def withChar (c : Char) :
    Option (List Char × List Char) → Option (List Char × List Char) :=
  Option.map fun (cs, rest) => (c :: cs, rest)

/-- Reads the rest of a string between double quotes, of at most so many
parts. -/
def basicBody : (parts : Nat) → Reader (List Char)
  | 0, _ => none
  | _ + 1, [] => none
  | _ + 1, '"' :: rest => some ([], rest)
  | parts + 1, '\\' :: rest => do
    let (c, rest) ← escaped rest
    withChar c (basicBody parts rest)
  | parts + 1, c :: rest =>
    if isPlain c then withChar c (basicBody parts rest) else none

/-- Reads the rest of a string between single quotes. -/
def literalBody : Reader (List Char)
  | [] => none
  | '\x27' :: rest => some ([], rest)
  | c :: rest => if isPlain c then withChar c (literalBody rest) else none

/-- The quotes at the head of a text, up to five of them: three close a string
of several lines, and up to two more belong to it. -/
def closingQuotes (quote : Char) (text : List Char) :
    Option (List Char × List Char) :=
  let quotes := (text.take 5).takeWhile (· == quote)
  if 3 ≤ quotes.length then some (quotes.drop 3, text.drop quotes.length)
  else none

/-- A text without the blanks and line ends at its head. -/
def skipSpace : List Char → List Char
  | '\r' :: '\n' :: rest => skipSpace rest
  | c :: rest =>
    if isLineBlank c || c == '\n' then skipSpace rest else c :: rest
  | [] => []

/-- Skips the blanks and line ends behind a backslash at the end of a line. -/
def skipFolded (text : List Char) : Option (List Char) :=
  (newline (skipLineBlanks text)).map skipSpace

/-- Reads the rest of a string of several lines between double quotes. -/
def multilineBasicBody : (parts : Nat) → Reader (List Char)
  | 0, _ => none
  | parts + 1, text =>
    match closingQuotes '"' text with
    | some closed => some closed
    | none =>
      match text with
      | [] => none
      | '\\' :: rest =>
        match skipFolded rest with
        | some rest => multilineBasicBody parts rest
        | none => do
          let (c, rest) ← escaped rest
          withChar c (multilineBasicBody parts rest)
      | c :: rest =>
        match newline text with
        | some next => withChar '\n' (multilineBasicBody parts next)
        | none =>
          if isPlain c then withChar c (multilineBasicBody parts rest)
          else none

/-- Reads the rest of a string of several lines between single quotes. -/
def multilineLiteralBody : (parts : Nat) → Reader (List Char)
  | 0, _ => none
  | parts + 1, text =>
    match closingQuotes '\x27' text with
    | some closed => some closed
    | none =>
      match text with
      | [] => none
      | c :: rest =>
        match newline text with
        | some next => withChar '\n' (multilineLiteralBody parts next)
        | none =>
          if isPlain c then withChar c (multilineLiteralBody parts rest)
          else none

/-- A text without the line end at its head, if it has one. -/
def skipNewline (text : List Char) : List Char :=
  (newline text).getD text

/-- Reads a string in quotes of one line. -/
def quotedLine : Reader (List Char)
  | '"' :: rest => basicBody (rest.length + 1) rest
  | '\x27' :: rest => literalBody rest
  | _ => none

/-- Reads a string in quotes of any kind. -/
def quotedText (text : List Char) : Option (List Char × List Char) :=
  match text with
  | '"' :: '"' :: '"' :: rest =>
    multilineBasicBody (rest.length + 1) (skipNewline rest)
  | '\x27' :: '\x27' :: '\x27' :: rest =>
    multilineLiteralBody (rest.length + 1) (skipNewline rest)
  | text => quotedLine text

-- ====================================================================== keys

/-- Whether a character may stand in a key without quotes. -/
def isBareKey (c : Char) : Bool :=
  c.isAlphanum || c == '-' || c == '_'

/-- Reads one part of a key. -/
def keyPart (text : List Char) : Option (String × List Char) :=
  match text.takeWhile isBareKey with
  | [] => (quotedLine text).map fun (cs, rest) => (String.ofList cs, rest)
  | cs => some (String.ofList cs, text.drop cs.length)

/-- Reads further parts of a key, each after a dot. -/
def keyParts : (parts : Nat) → Reader (List String)
  | 0, _ => none
  | parts + 1, text => do
    let (part, rest) ← keyPart (skipLineBlanks text)
    match skipLineBlanks rest with
    | '.' :: rest =>
      let (more, rest) ← keyParts parts rest
      return (part :: more, rest)
    | rest => return ([part], rest)

/-- How many arrays and tables may be nested in a value, and how many parts a
key may have. -/
def maxNesting : Nat := 79

/-- Reads a key, with the blanks around it: its parts but the last, and the
last. -/
def key (text : List Char) : Option ((List String × String) × List Char) := do
  let (parts, rest) ← keyParts maxNesting text
  let last ← parts.getLast?
  return ((parts.dropLast, last), rest)

end Toml

end SigningOrder
