import SchemaPlan.Doc.Folding
import SchemaPlan.Problem
import SchemaPlan.Text.Base64

/-!
# Documents in block form

A mapping has one entry a line; the entries of a mapping inside a mapping stand two columns to the
right, the items of a list under its key.  Empty lists and mappings stand between brackets, bytes
in base 64 on lines of their own.  A key that is no short text on one line is announced by a
question mark, and its value then follows on the next line.

* `checkBlock` says which documents have a block form: there is none for decimal numbers and for
  integers that are too long.
* `toBlock` is the text of a document.
-/
namespace SchemaPlan.Doc

open SchemaPlan.Text

/-! ## Values without parts -/

/-- Doubles always have a point in front of their exponent, and points mark what is no number. -/
def blockLayout : Binary64.Layout :=
  { Binary64.layout with pointsAlways := true, nanText := ".nan", infinityText := ".inf" }

/-- How many characters of base 64 stand on a line. -/
def base64Width : Nat := 76

/-- A text cut into lines of base 64; `count` bounds the number of lines. -/
def base64Lines : Nat → List Char → List (List Char)
  | 0, _ => []
  | count + 1, s =>
    if s.isEmpty then []
    else s.take base64Width :: base64Lines count (s.drop base64Width)

/-- Bytes on indented lines of base 64. -/
def bytesText (indent : Nat) (b : List UInt8) : String :=
  let encoded := toBase64 b
  if encoded.isEmpty then "!!binary \"\""
  else
    "!!binary |" ++
      String.ofList
        ((base64Lines encoded.length encoded).flatMap fun line => Scalar.newLine indent ++ line)

/-- Whether a value has parts that stand on lines of their own. -/
def hasParts : Doc → Bool
  | list (_ :: _) => true
  | mapping (_ :: _) => true
  | _ => false

/-- A value without parts, from a column on; further lines are indented. -/
def scalarText (indent column : Nat) : Doc → String
  | null => "null"
  | bool b => if b then "true" else "false"
  | text s => Scalar.write ⟨indent, true⟩ column s
  | float x => x.textIn blockLayout
  | bytes b => bytesText indent b
  | list _ => "[]"
  | mapping _ => "\x7b\x7d"
  | d => d.display

/-! ## Keys -/

/-- The longest key that stands in front of its value. -/
def keyLimit : Nat := 122

/-- Whether a key stands in front of its value. -/
def isShortKey : Option String → Bool
  | none => true
  | some key => key != "" && key.length ≤ keyLimit && !key.toList.any isBreak

/-- A key as a value. -/
def ofKey : Option String → Doc
  | none => null
  | some key => text key

/-- A short key from a column on. -/
def shortKeyText (column : Nat) : Option String → String
  | none => "null"
  | some key => Scalar.write ⟨column, false⟩ column key

/-! ## Parts -/

/-- A new line, indented. -/
def newLine (indent : Nat) : String :=
  String.ofList (Scalar.newLine indent)

/-- What follows a mark of one character at the indentation: a scalar, or parts whose lines are
given. -/
def markedText (indent : Nat) (d : Doc) (parts : String) : String :=
  " " ++ if d.hasParts then parts else d.scalarText (indent + 2) (indent + 2)

/-- The indentation of the parts of a value under its key: a list stands right under a short
one. -/
def partsIndent (indent : Nat) (key : Option String) : Doc → Nat
  | list _ => if isShortKey key then indent else indent + 2
  | _ => indent + 2

/-- An entry of a mapping; the lines of the parts of its value are given. -/
def entryText (indent : Nat) (key : Option String) (value : Doc) (parts : String) : String :=
  if isShortKey key then
    let shown := shortKeyText indent key
    shown ++ ":" ++
      if value.hasParts then newLine (partsIndent indent key value) ++ parts
      else " " ++ value.scalarText (indent + 2) (indent + shown.length + 2)
  else
    "?" ++ markedText indent (ofKey key) "" ++ newLine indent ++ ":" ++
      markedText indent value parts

mutual

/-- The parts of a value on lines of their own, the first of them begun. -/
def partsText (indent : Nat) : Doc → String
  | list items => (newLine indent).intercalate (itemTexts indent items)
  | mapping fields => (newLine indent).intercalate (entryTexts indent fields)
  | _ => ""

/-- The items of a list, a dash before each. -/
def itemTexts (indent : Nat) : List Doc → List String
  | [] => []
  | item :: rest =>
    ("-" ++ markedText indent item (item.partsText (indent + 2))) :: itemTexts indent rest

/-- The entries of a mapping. -/
def entryTexts (indent : Nat) : Fields → List String
  | [] => []
  | (key, value) :: rest =>
    entryText indent key value (value.partsText (partsIndent indent key value)) ::
      entryTexts indent rest

end

/-! ## Documents -/

/-- A value without parts has a block form unless it is a decimal number or a long integer. -/
def checkBlockScalar : Doc → Except Problem Unit
  | decimal _ => .error (.fault .unwritable)
  | int n => if Numeral.isWritable n then .ok () else .error (.fault .tooManyDigits)
  | _ => .ok ()

/-- The parts of a document have a block form. -/
def checkBlock (d : Doc) : Except Problem Unit :=
  d.check checkBlockScalar

/-- The text of a document in block form. -/
def toBlock (d : Doc) : Except Problem String := do
  d.checkBlock
  return (if d.hasParts then d.partsText 0 else d.scalarText 2 0) ++ "\n"

end SchemaPlan.Doc
