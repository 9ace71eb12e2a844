import SchemaPlan.Text.Hex
import SchemaPlan.Text.Printable

/-!
# Quoted text

How a text or a run of bytes is shown inside a message: between quotes, with a backslash before
what cannot stand for itself.  The quote is an apostrophe unless the content holds one and no
double quote.
-/
namespace SchemaPlan.Text

/-- The apostrophe. -/
def apostrophe : Char := '\x27'

/-- The double quote. -/
def doubleQuote : Char := '\x22'

/-- The quote that is put around a content. -/
def quoteFor (content : List Char) : Char :=
  if content.contains apostrophe && !content.contains doubleQuote then doubleQuote else apostrophe

/-- The escapes that quoted text and quoted bytes share. -/
def escapeControl? (quote c : Char) : Option (List Char) :=
  if c == quote || c == '\\' then some ['\\', c]
  else if c == '\t' then some ['\\', 't']
  else if c == '\n' then some ['\\', 'n']
  else if c == '\r' then some ['\\', 'r']
  else if c.toNat < 32 || c.toNat == 127 then some ('\\' :: 'x' :: hexFixed 2 c.toNat)
  else none

/-- A character inside quoted text. -/
def escapeChar (quote c : Char) : List Char :=
  match escapeControl? quote c with
  | some escaped => escaped
  | none =>
    let n := c.toNat
    if n < 127 || isPrintable c then [c]
    else if n < 256 then '\\' :: 'x' :: hexFixed 2 n
    else if n < 65536 then '\\' :: 'u' :: hexFixed 4 n
    else '\\' :: 'U' :: hexFixed 8 n

/-- A byte inside quoted bytes. -/
def escapeByte (quote : Char) (b : UInt8) : List Char :=
  let c := Char.ofNat b.toNat
  match escapeControl? quote c with
  | some escaped => escaped
  | none => if b.toNat < 127 then [c] else '\\' :: 'x' :: hexFixed 2 b.toNat

/-- A text between quotes. -/
def quoted (s : String) : String :=
  let quote := quoteFor s.toList
  String.ofList (quote :: s.toList.flatMap (escapeChar quote) ++ [quote])

/-- Bytes between quotes, with a mark in front. -/
def quotedBytes (bytes : List UInt8) : String :=
  let quote := quoteFor (bytes.map fun b => Char.ofNat b.toNat)
  String.ofList ('b' :: quote :: bytes.flatMap (escapeByte quote) ++ [quote])

/-- A list of texts: each quoted, between brackets. -/
def quotedList (items : List String) : String :=
  "[" ++ ", ".intercalate (items.map quoted) ++ "]"

example : quoted "it's" = "\"it's\"" := by decide +kernel

example : quoted "a\\b\n" = "'a\\\\b\\n'" := by decide +kernel

end SchemaPlan.Text
