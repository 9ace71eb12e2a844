import SchemaPlan.Doc.Scalar

/-!
# Scalars on lines

A text is written from a column on.  Where it goes on past the width of the page it is folded: the
line ends at a blank, and the rest stands indented on the next one.  Between double quotes a line
is folded behind a backslash, and blanks at its front are kept behind another one.

* `writePieces` writes what is plain or stands between apostrophes, `writeEscaped` what stands
  between double quotes.
* `write` chooses between them.
-/
namespace SchemaPlan.Doc.Scalar

open SchemaPlan.Text

/-- The column after which a line is folded. -/
def pageWidth : Nat := 80

/-- How a text may spread over lines. -/
structure Frame where
  /-- How far further lines are indented. -/
  indent : Nat
  /-- Whether lines may be folded; those of a key may not. -/
  folds : Bool

/-- A new line, indented. -/
def newLine (indent : Nat) : List Char :=
  '\n' :: List.replicate indent ' '

/-! ## Plain and between apostrophes -/

/-- A part of a text. -/
inductive Piece where
  | word (s : List Char)
  | blanks (count : Nat)
  /-- Characters that end lines. -/
  | breaks (ends : List Char)

/-- Puts a character in front of pieces. -/
def consPiece (c : Char) (pieces : List Piece) : List Piece :=
  if c == ' ' then
    match pieces with
    | .blanks count :: rest => .blanks (count + 1) :: rest
    | rest => .blanks 1 :: rest
  else if isBreak c then
    match pieces with
    | .breaks ends :: rest => .breaks (c :: ends) :: rest
    | rest => .breaks [c] :: rest
  else
    match pieces with
    | .word s :: rest => .word (c :: s) :: rest
    | rest => .word [c] :: rest

/-- The words of a text and what stands between them. -/
def pieces (s : List Char) : List Piece :=
  s.foldr consPiece []

/-- The ends of lines inside a text; a line feed is written twice, for one alone would be read as
a blank. -/
def writeBreaks (indent : Nat) (ends : List Char) : List Char :=
  (if ends.head? == some '\n' then ['\n'] else []) ++ ends ++ List.replicate indent ' '

/-- Writes pieces from a column on.  A line is folded at a blank that stands alone between words. -/
def writePieces (f : Frame) : Nat → List Piece → List Char
  | _, [] => []
  | column, .word s :: rest => s ++ writePieces f (column + s.length) rest
  | _, .breaks ends :: rest => writeBreaks f.indent ends ++ writePieces f f.indent rest
  | column, .blanks count :: rest =>
    if count = 1 && !rest.isEmpty && f.folds && pageWidth < column then
      newLine f.indent ++ writePieces f f.indent rest
    else List.replicate count ' ' ++ writePieces f (column + count) rest

/-- Writes a text from a column on; blanks at its front are no place to fold. -/
def writeRaw (f : Frame) (column : Nat) (s : List Char) : List Char :=
  let front := s.takeWhile (· == ' ')
  front ++ writePieces f (column + front.length) (pieces (s.drop front.length))

/-- A character between apostrophes: one of their own is written twice. -/
def doubled (c : Char) : List Char :=
  if c == '\x27' then [c, c] else [c]

/-! ## Between double quotes -/

/-- What is written where a line is folded before this character. -/
def foldBefore (indent : Nat) (c : Char) : List Char :=
  '\\' :: newLine indent ++ if c == ' ' then ['\\'] else []

/-- The column after a line is folded before this character. -/
def columnAfterFold (indent : Nat) (c : Char) : Nat :=
  if c == ' ' then indent + 1 else indent

/-- Writes the characters behind the first one with escapes.  A line is folded before a blank and
on both sides of an escape, but not before the last character. -/
def writeEscaped (f : Frame) : Nat → Bool → List Char → List Char
  | _, _, [] => []
  | _, _, [c] => escaped c
  | column, behindEscape, c :: d :: rest =>
    let shown := escaped c
    let next := column + shown.length
    if standsQuoted c then
      if (c == ' ' || behindEscape) && f.folds && pageWidth < column then
        foldBefore f.indent c ++ c ::
          writeEscaped f (columnAfterFold f.indent c + 1) false (d :: rest)
      else c :: writeEscaped f next false (d :: rest)
    else if f.folds && pageWidth + 1 < next then
      shown ++ foldBefore f.indent d ++
        writeEscaped f (columnAfterFold f.indent d) true (d :: rest)
    else shown ++ writeEscaped f next true (d :: rest)

/-- Writes a text with escapes from a column on. -/
def writeQuoted (f : Frame) (column : Nat) : List Char → List Char
  | [] => []
  | c :: rest =>
    escaped c ++ writeEscaped f (column + (escaped c).length) (!standsQuoted c) rest

/-! ## The choice -/

/-- Writes a text as a scalar from a column on. -/
def write (f : Frame) (column : Nat) (s : String) : String :=
  let cs := s.toList
  String.ofList <|
    match style cs with
    | .plain => writeRaw f column cs
    | .single => '\x27' :: writeRaw f (column + 1) (cs.flatMap doubled) ++ ['\x27']
    | .double => '\x22' :: writeQuoted f (column + 1) cs ++ ['\x22']

end SchemaPlan.Doc.Scalar
