import SchemaPlan.Dialect

/-!
# Escaped text

What stands for a text between the apostrophes of a literal.  One dialect puts a backslash and a
letter for each of seven characters; the other writes an apostrophe twice.  `unescape` reads
escapes from left to right and leaves alone what is none.
-/
namespace SchemaPlan.Sql

open SchemaPlan.Text

/-- The characters that a backslash escapes, each with the letter that stands for it. -/
def backslashEscapes : List (Char × Char) :=
  [('\x00', '0'), ('\n', 'n'), ('\r', 'r'), ('\\', '\\'), (apostrophe, apostrophe),
    (doubleQuote, doubleQuote), ('\x1a', 'Z')]

/-- The letter that stands for a character after a backslash. -/
def escapeLetter? (c : Char) : Option Char :=
  backslashEscapes.lookup c

/-- The character that a letter after a backslash stands for. -/
def unescapeLetter? (letter : Char) : Option Char :=
  (backslashEscapes.find? fun entry => entry.2 == letter).map Prod.fst

/-- A character inside a literal. -/
def escapeChar (d : Dialect) (c : Char) : List Char :=
  match d with
  | .mysql =>
    match escapeLetter? c with
    | some letter => ['\\', letter]
    | none => [c]
  | .pgsql => if c = apostrophe then [apostrophe, apostrophe] else [c]

/-- A text inside a literal. -/
def escapeChars (d : Dialect) (s : List Char) : List Char :=
  s.flatMap (escapeChar d)

/-- Reads backslash escapes. -/
def unescapeBackslashes : List Char → List Char
  | '\\' :: letter :: rest =>
    match unescapeLetter? letter with
    | some c => c :: unescapeBackslashes rest
    | none => '\\' :: unescapeBackslashes (letter :: rest)
  | c :: rest => c :: unescapeBackslashes rest
  | [] => []

/-- Reads doubled apostrophes. -/
def unescapeDoubled : List Char → List Char
  | c :: d :: rest =>
    if c = apostrophe ∧ d = apostrophe then apostrophe :: unescapeDoubled rest
    else c :: unescapeDoubled (d :: rest)
  | s => s

/-- The text that a text inside a literal stands for. -/
def unescapeChars : Dialect → List Char → List Char
  | .mysql => unescapeBackslashes
  | .pgsql => unescapeDoubled

/-- `escapeChars` on strings. -/
def escape (d : Dialect) (s : String) : String :=
  String.ofList (escapeChars d s.toList)

/-- `unescapeChars` on strings. -/
def unescape (d : Dialect) (s : String) : String :=
  String.ofList (unescapeChars d s.toList)

end SchemaPlan.Sql
