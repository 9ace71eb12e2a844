import SchemaPlan.Column.Basic
import SchemaPlan.Doc.Conversion

/-!
# Columns in SQL

The type of a column in a dialect, its default as a literal, and its definition.  A definition is
written unless its type is missing from the dialect or one of its numbers is too long.
-/
namespace SchemaPlan

open SchemaPlan.Sql

/-- What a type is written with: its two numbers, whether it knows time zones, and the values that
it is limited to. -/
structure TypeFacts where
  size : String
  scale : String
  withTimeZone : Bool
  values : List String

/-- A type of the vocabulary in a dialect. -/
def BaseType.sql (t : BaseType) (facts : TypeFacts) (d : Dialect) : String :=
  match t with
  | .decimal => "decimal(" ++ facts.size ++ ", " ++ facts.scale ++ ")"
  | .char | .varchar => t.name ++ "(" ++ facts.size ++ ")"
  | .binary | .varbinary =>
    match d with
    | .mysql => t.name ++ "(" ++ facts.size ++ ")"
    | .pgsql => "bytea"
  | .text =>
    match d with
    | .mysql => "longtext"
    | .pgsql => "text"
  | .blob =>
    match d with
    | .mysql => "longblob"
    | .pgsql => "bytea"
  | .datetime =>
    match d with
    | .mysql => if facts.withTimeZone then "timestamp" else "datetime"
    | .pgsql =>
      if facts.withTimeZone then "timestamp with time zone" else "timestamp without time zone"
  | .enum =>
    match d with
    | .mysql => "enum(" ++ ", ".intercalate (facts.values.map (textLiteral d)) ++ ")"
    | .pgsql =>
      "varchar(" ++ Numeral.ofNat ((facts.values.map String.length).foldl Nat.max 1) ++ ")"
  | .integer | .smallint | .bigint | .date | .time => t.name

/-- Whether a dialect writes the size of a type. -/
def BaseType.showsSize : BaseType → Dialect → Bool
  | .decimal, _ | .char, _ | .varchar, _ => true
  | .binary, d | .varbinary, d => d == .mysql
  | _, _ => false

/-- What the type of a column is written with. -/
def Column.facts (c : Column) : TypeFacts :=
  ⟨Numeral.ofInt c.size, Numeral.ofInt c.scale, c.withTimeZone, c.enumValues.getD []⟩

/-- The numbers of a type are short enough to be written. -/
def Column.checkNumbers (c : Column) (t : BaseType) (d : Dialect) : Except Problem Unit :=
  if (!t.showsSize d || Numeral.isWritable c.size) &&
      (t != .decimal || Numeral.isWritable c.scale) then .ok ()
  else .error (.fault .tooManyDigits)

/-- The problem of a type that is not in the vocabulary. -/
def noSuchType (label : Doc) (column : String) : Problem :=
  if label.isKey then label.worded (.invariant (.unknownType label.display column))
  else .fault .wrongKind

/-- The type of a column in a dialect. -/
def Column.sqlType (c : Column) (d : Dialect) : Except Problem String :=
  match c.type with
  | .base t => do
    c.checkNumbers t d
    return t.sql c.facts d
  | .other label => .error (noSuchType label c.name)

/-- A text that is a default of a column of this type. -/
def ColumnType.textDefault (t : ColumnType) (d : Dialect) (s : String) : String :=
  match t with
  | .base .enum => textLiteral d s
  | .base b =>
    match b.temporal? with
    | some temporal => if s = "" then temporal.zeroLiteral d else textLiteral d s
    | none => literal d (.text s)
  | .other _ => literal d (.text s)

/-- Bytes that are a default of a column of this type. -/
def ColumnType.bytesDefault (t : ColumnType) (d : Dialect) (b : List UInt8) : String :=
  match t with
  | .base .enum => textLiteral d (Text.quotedBytes b)
  | .base c => if c.temporal?.isSome then textLiteral d (Text.quotedBytes b) else literal d (.bytes b)
  | .other _ => literal d (.bytes b)

/-- A default in SQL. -/
def Literal.sql (value : Literal) (t : ColumnType) (d : Dialect) : String :=
  match value with
  | .int n => Numeral.ofInt n
  | .decimal x => x.toFixed
  | .text s => t.textDefault d s
  | .bytes b => t.bytesDefault d b

namespace Column

/-- The default of a column in SQL, when it does not number its rows. -/
def plainDefaultSql (c : Column) (d : Dialect) : String :=
  match c.systemDefault, c.default with
  | some reference, _ => "default " ++ reference.sql d
  | none, some value => "default " ++ value.sql c.type d
  | none, none => "default NULL"

/-- The clause that numbers the rows of a table. -/
def numberingSql (table : String) (t : Target) : String :=
  match t.dialect with
  | .mysql => "auto_increment"
  | .pgsql => "default nextval('" ++ t.sequence table ++ "')"

/-- The default clause of a column of this table. -/
def defaultSql (c : Column) (table : String) (t : Target) : String :=
  if c.autoIncrement then numberingSql table t else c.plainDefaultSql t.dialect

/-- Which parts of a definition are wanted. -/
structure Parts where
  name : Bool
  type : Bool
  null : Bool
  default : Bool
  autoIncrement : Bool

/-- All parts of a definition. -/
def Parts.all : Parts := ⟨true, true, true, true, true⟩

/-- The parts of a definition that follow the type. -/
def tail (c : Column) (table : String) (t : Target) (parts : Parts) : List String :=
  (if parts.null && !c.nullable then ["not null"] else []) ++
    if if c.autoIncrement then parts.autoIncrement else parts.default then
      [c.defaultSql table t]
    else []

/-- A definition with its type known. -/
def definitionWith (c : Column) (type : String) (table : String) (t : Target) : String :=
  " ".intercalate (c.name :: type :: c.tail table t .all)

/-- The default of a column is written unless its number is too long. -/
def checkDefault (c : Column) : Except Problem Unit :=
  match c.default with
  | some value => value.checkWritable
  | none => .ok ()

/-- The wanted parts of the definition of a column of this table, with its type known. -/
def partsWith (c : Column) (type : List String) (table : String) (t : Target) (parts : Parts) :
    Except Problem String := do
  if parts.default then c.checkDefault
  return " ".intercalate ((if parts.name then [c.name] else []) ++ type ++ c.tail table t parts)

/-- The wanted parts of the definition of a column of this table. -/
def partsSql (c : Column) (table : String) (t : Target) (parts : Parts) :
    Except Problem String := do
  let type ← if parts.type then (c.sqlType t.dialect).map ([·]) else .ok []
  c.partsWith type table t parts

end Column

end SchemaPlan
