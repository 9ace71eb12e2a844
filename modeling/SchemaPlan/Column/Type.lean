import SchemaPlan.Doc.Text
import SchemaPlan.Dialect

/-!
# Column types

The vocabulary of column types, and the types of columns: one of the vocabulary, or whatever else
the document says, which is carried along although no statement can be written for it.
-/
namespace SchemaPlan

/-- A type of a point or a span of time. -/
inductive Temporal where
  | date
  | time
  | datetime
deriving DecidableEq

/-- A column type that statements can be written for. -/
inductive BaseType where
  | integer
  | smallint
  | bigint
  | decimal
  | char
  | varchar
  | text
  | binary
  | varbinary
  | blob
  | date
  | time
  | datetime
  | enum
deriving DecidableEq

namespace BaseType

/-- The vocabulary. -/
def all : List BaseType :=
  [integer, smallint, bigint, decimal, char, varchar, text, binary, varbinary, blob, date, time,
    datetime, enum]

/-- The name of a type. -/
def name : BaseType → String
  | integer => "integer"
  | smallint => "smallint"
  | bigint => "bigint"
  | decimal => "decimal"
  | char => "char"
  | varchar => "varchar"
  | text => "text"
  | binary => "binary"
  | varbinary => "varbinary"
  | blob => "blob"
  | date => "date"
  | time => "time"
  | datetime => "datetime"
  | enum => "enum"

/-- The type of this name. -/
def named? (s : String) : Option BaseType :=
  all.find? fun t => t.name == s

theorem named?_name (t : BaseType) : named? t.name = some t := by
  cases t <;> decide +kernel

/-- Whether the values are integers. -/
def isInteger : BaseType → Bool
  | integer | smallint | bigint => true
  | _ => false

/-- Whether the values are bytes; the types that are share one type on one of the dialects. -/
def isBinary : BaseType → Bool
  | binary | varbinary | blob => true
  | _ => false

/-- The type as a type of time. -/
def temporal? : BaseType → Option Temporal
  | date => some .date
  | time => some .time
  | datetime => some .datetime
  | _ => none

end BaseType

/-- The texts that stand for no time at all. -/
def Temporal.zeros : Temporal → List String
  | date => ["0000-00-00", "0001-01-01"]
  | datetime => ["0000-00-00 00:00:00", "0001-01-01 00:00:00"]
  | time => ["00:00:00"]

/-- The literal that a dialect writes for no time at all. -/
def Temporal.zeroLiteral : Temporal → Dialect → String
  | time, _ => "'00:00:00'"
  | date, .mysql => "'0000-00-00'"
  | datetime, .mysql => "'0000-00-00 00:00:00'"
  | date, .pgsql => "'0001-01-01'"
  | datetime, .pgsql => "'0001-01-01 00:00:00'"

/-- The type of a column. -/
inductive ColumnType where
  | base (type : BaseType)
  /-- What the document says, when it is not in the vocabulary. -/
  | other (label : Doc)
deriving Inhabited

namespace ColumnType

/-- The type that a document value names. -/
def ofDoc : Doc → ColumnType
  | .text s =>
    match BaseType.named? s with
    | some t => base t
    | none => other (.text s)
  | label => other label

/-- The document value that names a type. -/
def toDoc : ColumnType → Doc
  | base t => .text t.name
  | other label => label

/-- A type in a message. -/
def display (t : ColumnType) : String :=
  t.toDoc.display

/-- Whether the type is this one of the vocabulary. -/
def isBase (t : ColumnType) (b : BaseType) : Bool :=
  match t with
  | base c => c == b
  | other _ => false

/-- Whether the type can be looked up among the names of types. -/
def isKey (t : ColumnType) : Bool :=
  t.toDoc.isKey

/-- Whether two types are equal. -/
def same? : ColumnType → ColumnType → Option Bool
  | base s, base t => some (s == t)
  | other s, other t => s.same? t
  | _, _ => some false

end ColumnType

end SchemaPlan
