/-
Reading a whole text in TOML. A text is a run of lines, each a header, a key
and its value, or neither; the pairs behind a header belong to its table.
`Toml.parse` gives the document of a text, or nothing where the text is not in
order.
-/
import SigningOrder.Toml.Scalar
import SigningOrder.Toml.Table

namespace SigningOrder

namespace Toml

-- ==================================================================== values

/-- Reads the values of an array up to its closing bracket, at most so many. -/
def arrayItems (value : Reader Document) :
    (items : Nat) → Reader (List Document)
  | 0, _ => none
  | items + 1, text =>
    match skipBlankLines text with
    | ']' :: rest => some ([], rest)
    | text => do
      let (d, rest) ← value text
      match skipBlankLines rest with
      | ',' :: rest =>
        let (ds, rest) ← arrayItems value items rest
        return (d :: ds, rest)
      | ']' :: rest => return ([d], rest)
      | _ => none

/-- Reads a key and its value. -/
def pair (value : Reader Document) : Reader Pair := fun text => do
  let ((path, name), rest) ← key text
  let rest ← literal ['='] rest
  let (d, rest) ← value (skipLineBlanks rest)
  return (⟨path, name, d⟩, rest)

/-- Reads the pairs of a table in braces up to its closing brace, at most so
many. -/
def inlinePairs (value : Reader Document) : (pairs : Nat) → Reader (List Pair)
  | 0, _ => none
  | pairs + 1, text => do
    let (p, rest) ← pair value text
    match skipLineBlanks rest with
    | ',' :: rest =>
      let (ps, rest) ← inlinePairs value pairs rest
      return (p :: ps, rest)
    | '\x7d' :: rest => return ([p], rest)
    | _ => none

/-- Reads a table in braces behind the opening brace. -/
def inlineTable (value : Reader Document) : Reader Document := fun text =>
  match skipLineBlanks text with
  | '\x7d' :: rest => some (.object [], rest)
  | text => do
    let (pairs, rest) ← inlinePairs value (text.length + 1) text
    let entries ← Entries.addPairs [] pairs
    return (.object (Item.entriesToDocument entries), rest)

/-- Reads a value that holds no other values. -/
def scalar : Reader Document
  | [] => none
  | c :: rest =>
    if c == '"' || c == '\x27' then
      (quotedText (c :: rest)).map fun (cs, rest) =>
        (.text (String.ofList cs), rest)
    else if c == 't' then
      (literal "true".toList (c :: rest)).map fun rest => (.bool true, rest)
    else if c == 'f' then
      (literal "false".toList (c :: rest)).map fun rest => (.bool false, rest)
    else number (c :: rest)

/-- Reads a value in which so many arrays and tables may be nested. -/
def value : (levels : Nat) → Reader Document
  | levels + 1, '[' :: rest => do
    let (ds, rest) ← arrayItems (value levels) (rest.length + 1) rest
    return (.openList ds, rest)
  | levels + 1, '\x7b' :: rest => inlineTable (value levels) rest
  | _, text => scalar text

-- ===================================================================== lines

/-- What a line says. -/
inductive Line where
  | blank
  | pair (pair : Pair)
  /-- A header, which opens a table or an element of a list of tables. -/
  | header (element : Bool) (path : List String) (name : String)

/-- Reads a header behind its opening brackets. -/
def header (element : Bool) (text : List Char) : Option (Line × List Char) := do
  let ((path, name), rest) ← key text
  let rest ← literal (if element then [']', ']'] else [']']) rest
  return (.header element path name, rest)

/-- Reads what a line says, up to a comment or the end of the line. -/
def lineBody (text : List Char) : Option (Line × List Char) :=
  match skipLineBlanks text with
  | '[' :: '[' :: rest => header true rest
  | '[' :: rest => header false rest
  | '#' :: rest => some (.blank, '#' :: rest)
  | '\n' :: rest => some (.blank, '\n' :: rest)
  | '\r' :: rest => some (.blank, '\r' :: rest)
  | [] => some (.blank, [])
  | text => (pair (value maxNesting) text).map fun (p, rest) => (.pair p, rest)

/-- Reads all lines, at most so many. -/
def lines : (count : Nat) → List Char → Option (List Line)
  | _, [] => some []
  | 0, _ => none
  | count + 1, text => do
    let (line, rest) ← lineBody text
    let rest ← lineEnd rest
    let more ← lines count rest
    return line :: more

-- ================================================================= documents

/-- The pairs before the first header, and the sections. -/
def sections : List Line → List Pair × List Section
  | [] => ([], [])
  | .blank :: rest => sections rest
  | .pair p :: rest =>
    let (pairs, more) := sections rest
    (p :: pairs, more)
  | .header element path name :: rest =>
    let (pairs, more) := sections rest
    ([], ⟨element, path, name, pairs⟩ :: more)

/-- A text without the byte order mark at its head. -/
def skipMark : List Char → List Char
  | '\ufeff' :: rest => rest
  | text => text

/-- The document of a text. -/
def parse (text : String) : Option Document := do
  let text := skipMark text.toList
  let ls ← lines text.length text
  let (pairs, more) := sections ls
  let top ← Entries.addPairs [] pairs
  let entries ← more.foldlM Entries.addSection top
  return .object (Item.entriesToDocument entries)

end Toml

end SigningOrder
