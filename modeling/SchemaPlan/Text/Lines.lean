/-!
# Texts of files

The bytes of a text in UTF-8, the text of valid UTF-8 bytes, and the reading of each byte as the
character of its code.  Three views of the ends of lines: `unifyLineEnds` makes a line feed of each
carriage return with or without one, `lines` splits a text at every character that ends a line, and
`isBreak` names the few of them that end a line of a document.  Which characters count as white
space, and the removal of white space from the two ends of a text: `isBlank` is the white space
property of Unicode together with the four information separators.
-/
namespace SchemaPlan.Text

/-! ## Bytes -/

/-- The UTF-8 bytes of a text. -/
def utf8 (s : String) : List UInt8 :=
  s.toList.flatMap String.utf8EncodeChar

/-- The text whose UTF-8 bytes these are, if they are valid. -/
def ofUtf8? (bytes : List UInt8) : Option String :=
  String.fromUTF8? bytes.toByteArray

/-- Each byte read as the character with its code point. -/
def ofBytewise (bytes : List UInt8) : String :=
  String.ofList (bytes.map fun b => Char.ofNat b.toNat)

/-! ## Lines -/

/-- Every end of a line as a line feed. -/
def unifyLineEnds : List Char → List Char
  | '\r' :: '\n' :: rest => '\n' :: unifyLineEnds rest
  | '\r' :: rest => '\n' :: unifyLineEnds rest
  | c :: rest => c :: unifyLineEnds rest
  | [] => []

/-- Whether a character ends a line. -/
def endsLine (c : Char) : Bool :=
  let n := c.toNat
  (10 ≤ n && n ≤ 13) || (28 ≤ n && n ≤ 30) || n == 0x85 || n == 0x2028 || n == 0x2029

/-- Whether a character ends a line of a document whose ends of lines are unified. -/
def isBreak (c : Char) : Bool :=
  c == '\n' || c.toNat == 0x85 || c.toNat == 0x2028 || c.toNat == 0x2029

/-- Puts a character in front of the first line. -/
def consLine (c : Char) : List (List Char) → List (List Char)
  | [] => [[c]]
  | line :: rest => (c :: line) :: rest

/-- The lines of a text; a carriage return and a line feed together end one line, and the end of
the text begins none. -/
def lines : List Char → List (List Char)
  | [] => []
  | '\r' :: '\n' :: rest => [] :: lines rest
  | c :: rest => if endsLine c then [] :: lines rest else consLine c (lines rest)

/-! ## Blanks -/

/-- The white space of Unicode and the information separators `1C` to `1F`. -/
def isBlank (c : Char) : Bool :=
  let n := c.toNat
  (9 ≤ n && n ≤ 13) || (28 ≤ n && n ≤ 32) || n == 0x85 || n == 0xa0 || n == 0x1680 ||
    (0x2000 ≤ n && n ≤ 0x200a) || n == 0x2028 || n == 0x2029 || n == 0x202f || n == 0x205f ||
    n == 0x3000

/-- The six blanks of the seven-bit alphabet. -/
def isPlainBlank (c : Char) : Bool :=
  let n := c.toNat
  (9 ≤ n && n ≤ 13) || n == 32

/-- The text without the characters of `p` at its end. -/
def dropEndWhile (p : Char → Bool) (s : List Char) : List Char :=
  (s.reverse.dropWhile p).reverse

/-- The text without the characters of `p` at either end. -/
def trimOf (p : Char → Bool) (s : List Char) : List Char :=
  dropEndWhile p (s.dropWhile p)

/-- The text without blanks at either end. -/
def trim (s : List Char) : List Char :=
  trimOf isBlank s

@[simp] theorem trim_nil : trim [] = [] := rfl

end SchemaPlan.Text
