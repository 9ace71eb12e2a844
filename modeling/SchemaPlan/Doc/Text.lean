import SchemaPlan.Doc.Basic
import SchemaPlan.Number.DecimalText
import SchemaPlan.Text.Quoted

/-!
# Values in messages

How a document value is shown.  `Doc.display` shows a text as it is; `Doc.literal` quotes it, and
so do the items of lists and mappings.  `Doc.kindName` names the kind of a value.
-/
namespace SchemaPlan.Doc

open SchemaPlan.Text

/-- The name of the kind of a value. -/
def kindName : Doc → String
  | null => "NoneType"
  | bool _ => "bool"
  | int _ => "int"
  | float _ => "float"
  | decimal _ => "Decimal"
  | text _ => "str"
  | bytes _ => "bytes"
  | list _ => "list"
  | mapping _ => "dict"

/-- The text of the null value, and of the null key. -/
def nullText : String := "None"

/-- The key of an entry as a text. -/
def keyText (key : Option String) : String :=
  key.getD nullText

/-- The key of an entry as it stands inside a mapping. -/
def keyLiteral : Option String → String
  | none => nullText
  | some key => quoted key

mutual

/-- A value as it stands inside a list. -/
def literal : Doc → String
  | null => nullText
  | bool b => if b then "True" else "False"
  | int n => Numeral.ofInt n
  | float x => x.toText
  | decimal d => "Decimal(" ++ quoted d.toText ++ ")"
  | text s => quoted s
  | bytes b => quotedBytes b
  | list items => "[" ++ ", ".intercalate (literals items) ++ "]"
  | mapping fields => "\x7b" ++ ", ".intercalate (entryLiterals fields) ++ "\x7d"

/-- The items of a list. -/
def literals : List Doc → List String
  | [] => []
  | item :: rest => item.literal :: literals rest

/-- The entries of a mapping, a colon between key and value. -/
def entryLiterals : Fields → List String
  | [] => []
  | (key, value) :: rest => (keyLiteral key ++ ": " ++ value.literal) :: entryLiterals rest

end

/-- A value as it stands alone. -/
def display : Doc → String
  | text s => s
  | decimal d => d.toText
  | d => d.literal

end SchemaPlan.Doc
