import SchemaPlan.Sql.Escape
import SchemaPlan.Text.Lines

/-!
# Literals

A content, text or bytes, as a literal.  Content that is all printable in the seven-bit alphabet
stands between apostrophes; everything else is written as hexadecimal bytes, text as UTF-8.
-/
namespace SchemaPlan

open SchemaPlan.Text

/-- What a value holds: text or bytes. -/
inductive Content where
  | text (s : String)
  | bytes (b : List UInt8)
deriving DecidableEq, Inhabited

/-- The bytes of a content, text in UTF-8. -/
def Content.toBytes : Content → List UInt8
  | text s => utf8 s
  | bytes b => b

/-- A content read as text, each byte as one character. -/
def Content.bytewise : Content → String
  | text s => s
  | bytes b => ofBytewise b

namespace Sql

/-- Whether a byte is outside the printable characters of the seven-bit alphabet. -/
def isBinaryByte (b : UInt8) : Bool :=
  b < 0x20 || 0x7e < b

/-- Whether a content holds such a byte. -/
def isBinary (c : Content) : Bool :=
  c.toBytes.any isBinaryByte

/-- A content as hexadecimal bytes. -/
def hexLiteral (d : Dialect) (c : Content) : String :=
  let hex := String.ofList (hexBytes c.toBytes)
  match d with
  | .mysql => "0x" ++ hex
  | .pgsql => "decode('" ++ hex ++ "', 'hex')"

/-- A text between apostrophes. -/
def textLiteral (d : Dialect) (s : String) : String :=
  "'" ++ escape d s ++ "'"

/-- A content as a literal. -/
def literal (d : Dialect) (c : Content) : String :=
  if isBinary c then hexLiteral d c else textLiteral d c.bytewise

end Sql

end SchemaPlan
