import SchemaPlan.Text.Hex
import SchemaPlan.Text.Lines

/-!
# Plain and quoted scalars

Which texts may stand in a block document as they are, and which must be quoted and how.  A text
is plain if no indicator of the format hides in it and if nothing but a text would be read from it:
`readsOtherwise` lists what is read as a truth value, a number, null, a time stamp or a mark of the
format.  `style` is the decision, `escaped` a character between double quotes.
-/
namespace SchemaPlan.Doc.Scalar

open SchemaPlan.Text

/-! ## Texts that are read as something else -/

/-- The words for truth values and null, and the marks for merging and for a default. -/
def reservedWords : List String :=
  ["yes", "Yes", "YES", "no", "No", "NO", "true", "True", "TRUE", "false", "False", "FALSE", "on",
    "On", "ON", "off", "Off", "OFF", "~", "null", "Null", "NULL", "", "<<", "=", ".nan", ".NaN",
    ".NAN"]

/-- The words for infinity, after a sign. -/
def infinityWords : List String := [".inf", ".Inf", ".INF"]

/-- The text after a sign, if it has one. -/
def unsigned : List Char → List Char
  | c :: rest => if c == '-' || c == '+' then rest else c :: rest
  | [] => []

/-- A digit or an underscore. -/
def isDigitOrLine (c : Char) : Bool :=
  c.isDigit || c == '_'

/-- Digits and underscores, the first being a digit. -/
def isDigits : List Char → Bool
  | c :: rest => c.isDigit && rest.all isDigitOrLine
  | [] => false

/-- A piece of a number in base sixty. -/
def isSixtieth : List Char → Bool
  | [c] => c.isDigit
  | [c, d] => '0' ≤ c && c ≤ '5' && d.isDigit
  | _ => false

/-- Whether the text is read as an integer. -/
def isInteger (s : List Char) : Bool :=
  match unsigned s with
  | ['0'] => true
  | '0' :: 'b' :: rest => !rest.isEmpty && rest.all fun c => c == '0' || c == '1' || c == '_'
  | '0' :: 'x' :: rest =>
    !rest.isEmpty && rest.all fun c =>
      isDigitOrLine c || ('a' ≤ c && c ≤ 'f') || ('A' ≤ c && c ≤ 'F')
  | '0' :: rest => !rest.isEmpty && rest.all fun c => c == '_' || ('0' ≤ c && c ≤ '7')
  | body =>
    match body.splitOn ':' with
    | first :: sixtieths => isDigits first && sixtieths.all isSixtieth
    | [] => false

/-- An exponent with its sign, or nothing. -/
def isExponent : List Char → Bool
  | [] => true
  | e :: sign :: digits =>
    (e == 'e' || e == 'E') && (sign == '-' || sign == '+') && !digits.isEmpty &&
      digits.all Char.isDigit
  | _ => false

/-- A fraction and an exponent. -/
def isFraction (s : List Char) : Bool :=
  isExponent (s.dropWhile isDigitOrLine)

/-- Whether the text is read as a number with a point. -/
def isPointed (s : List Char) : Bool :=
  let body := unsigned s
  let whole := body.takeWhile (· != '.')
  let rest := body.drop (whole.length + 1)
  let hasPoint := body.contains '.'
  infinityWords.contains (String.ofList body) ||
    (hasPoint && isDigits whole && isFraction rest) ||
    (match s with
      | '.' :: tail => isDigits (tail.takeWhile isDigitOrLine) && isFraction tail
      | _ => false) ||
    (hasPoint && rest.all isDigitOrLine &&
      match whole.splitOn ':' with
      | first :: sixtieth :: more => isDigits first && (sixtieth :: more).all isSixtieth
      | _ => false)

/-- So many digits. -/
def areDigits (count : Nat) (s : List Char) : Bool :=
  s.length == count && s.all Char.isDigit

/-- One or two digits. -/
def oneOrTwoDigits (s : List Char) : Bool :=
  areDigits 1 s || areDigits 2 s

/-- A blank inside a time stamp. -/
def isStampBlank (c : Char) : Bool :=
  c == ' ' || c == '\t'

/-- A zone after a time, or nothing. -/
def isZone (s : List Char) : Bool :=
  s.isEmpty ||
  match s.dropWhile isStampBlank with
  | [] => false
  | ['Z'] => true
  | sign :: rest =>
    (sign == '-' || sign == '+') &&
      match rest.splitOn ':' with
      | [hours] => oneOrTwoDigits hours
      | [hours, minutes] => oneOrTwoDigits hours && areDigits 2 minutes
      | _ => false

/-- A time of day with seconds, a fraction and a zone. -/
def isClock (s : List Char) : Bool :=
  let hours := s.takeWhile Char.isDigit
  oneOrTwoDigits hours &&
    match s.drop hours.length with
    | ':' :: m :: n :: ':' :: p :: q :: rest =>
      [m, n, p, q].all Char.isDigit &&
        match rest with
        | '.' :: fraction => isZone (fraction.dropWhile Char.isDigit)
        | other => isZone other
    | _ => false

/-- What stands between a day and a time, and the time. -/
def isTimeOfDay : List Char → Bool
  | [] => false
  | c :: rest =>
    if c == 'T' || c == 't' then isClock rest
    else isStampBlank c && isClock (rest.dropWhile isStampBlank)

/-- Whether the text is a day with all its digits. -/
def isDay (s : List Char) : Bool :=
  match s.splitOn '-' with
  | [year, month, day] => areDigits 4 year && areDigits 2 month && areDigits 2 day
  | _ => false

/-- Whether the text is a day and a time of day. -/
def isMoment (s : List Char) : Bool :=
  match s with
  | a :: b :: c :: d :: '-' :: rest =>
    let month := rest.takeWhile Char.isDigit
    areDigits 4 [a, b, c, d] && oneOrTwoDigits month &&
      match rest.drop month.length with
      | '-' :: rest =>
        let day := rest.takeWhile Char.isDigit
        oneOrTwoDigits day && isTimeOfDay (rest.drop day.length)
      | _ => false
  | _ => false

/-- Whether a plain text would be read as something else. -/
def readsOtherwise (s : List Char) : Bool :=
  reservedWords.contains (String.ofList s) || isInteger s || isPointed s || isDay s || isMoment s

/-! ## Texts with indicators -/

/-- What separates tokens. -/
def isSpace (c : Char) : Bool :=
  c == '\x00' || c == ' ' || c == '\t' || c == '\r' || c == '\n' || c.toNat == 0x85 ||
    c.toNat == 0x2028 || c.toNat == 0x2029

/-- The characters that mean something at the front of a text. -/
def leadingIndicators : List Char :=
  "#,[]\x7b\x7d&*!|>'\"%@`".toList

/-- The end of a text, or a space. -/
def atSpace : List Char → Bool
  | [] => true
  | c :: _ => isSpace c

/-- Whether an indicator hides behind the character in front. -/
def hidesIndicator (before : Char) : List Char → Bool
  | [] => false
  | c :: rest =>
    (c == ':' && atSpace rest) || (c == '#' && isSpace before) || hidesIndicator c rest

/-- Whether an indicator of the format stands in the text. -/
def hasIndicator (s : List Char) : Bool :=
  "---".toList.isPrefixOf s || "...".toList.isPrefixOf s ||
    match s with
    | [] => false
    | c :: rest =>
      leadingIndicators.contains c || ((c == '?' || c == ':' || c == '-') && atSpace rest) ||
        hidesIndicator c rest

/-- Whether a character can only be written as an escape. -/
def isSpecial (c : Char) : Bool :=
  let n := c.toNat
  !(n == 10 || (0x20 ≤ n && n ≤ 0x7e) || n == 0x85 || (0xa0 ≤ n && n ≤ 0xfffd) ||
    (0x10000 ≤ n && n < 0x10ffff)) || n == 0xfeff

/-- Whether the text begins or ends with a blank. -/
def hasOuterBlank (s : List Char) : Bool :=
  s.head? == some ' ' || s.getLast? == some ' '

/-- Whether a blank stands beside the end of a line, where folding would lose it. -/
def hasBlankAtBreak : List Char → Bool
  | c :: d :: rest =>
    (c == ' ' && isBreak d) || (isBreak c && d == ' ') || hasBlankAtBreak (d :: rest)
  | _ => false

/-- How a text is written. -/
inductive Style where
  | plain
  /-- Between apostrophes. -/
  | single
  /-- Between double quotes, with escapes. -/
  | double
deriving DecidableEq

/-- The way to write a text: plain if possible, with escapes only if necessary. -/
def style (s : List Char) : Style :=
  if s.any isSpecial || hasBlankAtBreak s then .double
  else if s.any isBreak || hasOuterBlank s || hasIndicator s || readsOtherwise s then .single
  else .plain

/-! ## Escapes -/

/-- The letters after a backslash that stand for characters. -/
def escapeLetters : List (Nat × Char) :=
  [(0, '0'), (7, 'a'), (8, 'b'), (9, 't'), (10, 'n'), (11, 'v'), (12, 'f'), (13, 'r'), (27, 'e'),
    (34, '\x22'), (92, '\\'), (0x85, 'N'), (0xa0, '_'), (0x2028, 'L'), (0x2029, 'P')]

/-- Whether a character stands for itself between double quotes. -/
def standsQuoted (c : Char) : Bool :=
  let n := c.toNat
  n != 34 && n != 92 && n != 0x2028 && n != 0x2029 && n != 0xfeff &&
    ((0x20 ≤ n && n ≤ 0x7e) || (0xa0 ≤ n && n ≤ 0xfffd))

/-- The last digits of a number in base sixteen, as capitals. -/
def capitalHex (width n : Nat) : List Char :=
  (hexFixed width n).map Char.toUpper

/-- A character between double quotes. -/
def escaped (c : Char) : List Char :=
  let n := c.toNat
  if standsQuoted c then [c]
  else
    match escapeLetters.lookup n with
    | some letter => ['\\', letter]
    | none =>
      if n < 0x100 then '\\' :: 'x' :: capitalHex 2 n
      else if n < 0x10000 then '\\' :: 'u' :: capitalHex 4 n
      else '\\' :: 'U' :: capitalHex 8 n

end SchemaPlan.Doc.Scalar
