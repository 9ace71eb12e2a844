import SchemaPlan.Column.Sql
import SchemaPlan.Document.Read

/-!
# Columns given by hand

A column whose fields are given one by one and not by a document, so that each may hold a value of
any kind.  Switches count by their truth and texts by what is shown of them, but two such columns
are compared by what they were given.

* `GivenColumn.build` makes the checks that hold for every column.
* `GivenColumn.partsSql` writes the column as `Column.partsSql` does.
* `GivenColumn.same?` and `GivenColumn.sameInView?` compare field by field.
-/
namespace SchemaPlan

/-- The fields of a column as they are given. -/
structure ColumnFields where
  name : Doc
  type : Doc
  size : Doc
  scale : Doc
  nullable : Doc
  default : Doc
  systemDefault : Doc
  autoIncrement : Doc
  withTimeZone : Doc

/-- A column given by hand; its default is normalised. -/
structure GivenColumn where
  fields : ColumnFields
  enumValues : Option (List Doc)
  /-- The system variable that is the default. -/
  systemDefault : Option SystemReference

/-! ## Building -/

namespace ColumnFields

/-- The draft of a column with these fields; its numbers are left out. -/
def draft (f : ColumnFields) (values : Option (List Doc)) : ColumnDraft :=
  ⟨f.name.display, f.type, 0, 0, f.nullable.truthy, f.default, f.systemDefault,
    f.autoIncrement.truthy, f.withTimeZone.truthy, values.map fun items => items.map Doc.display⟩

end ColumnFields

/-- A literal as a value. -/
def Literal.toDoc : Literal → Doc
  | text s => .text s
  | bytes b => .bytes b
  | int n => .int n
  | decimal d => .decimal d

/-- The value that a default is. -/
def defaultDoc : Option Literal → Doc
  | none => .null
  | some value => value.toDoc

namespace GivenColumn

/-- The normalised default.  The zero of a limited type is the first of its values, whatever it
is; a default that is named must be one of them. -/
def normalDefault (d : ColumnDraft) (values : List Doc) : Except Problem Doc :=
  if d.columnType.isBase .enum && d.default.isNull && !d.isFree then .ok (values.headD .null)
  else do
    let default ← (d.normalDefault).map defaultDoc
    if d.columnType.isBase .enum && !default.isNull &&
        !values.any fun value => default.same? value == some true then
      throw (default.worded ((Doc.list values).worded
        (.invariant (.defaultNotListed default.literal d.name (Doc.list values).literal))))
    return default

/-- The values that a column is limited to. -/
def readValues (given : Doc) : Except Problem (Option (List Doc)) :=
  if given.isNull then .ok none else (Document.items given).map some

/-- The column with these fields and values. -/
def buildWith (f : ColumnFields) (values : Option (List Doc)) : Except Problem GivenColumn := do
  let d := f.draft values
  d.checkShape
  let systemDefault ← d.readSystemDefault
  let default ← normalDefault d (values.getD [])
  return ⟨{ f with default := default }, values, systemDefault⟩

/-- The column with these fields; the text of its name stands in messages. -/
def build (f : ColumnFields) (enumValues : Doc) : Except Problem GivenColumn := do
  let values ← readValues enumValues
  (buildWith f values).mapError f.name.worded

/-! ## Statements -/

/-- The type of the column. -/
def columnType (c : GivenColumn) : ColumnType :=
  .ofDoc c.fields.type

/-- The default as a literal; that of a limited type is written as text. -/
def literal? (c : GivenColumn) : Option Literal :=
  if c.columnType.isBase .enum && !c.fields.default.isNull then
    some (.text c.fields.default.display)
  else
    match c.fields.default with
    | .null => none
    | .bytes b => some (.bytes b)
    | .int n => some (.int n)
    | .decimal x => some (.decimal x)
    | other => some (.text other.display)

/-- The column as statements have it, but for its type. -/
def column (c : GivenColumn) : Column :=
  ⟨c.fields.name.display, c.columnType, 0, 0, c.fields.nullable.truthy, c.literal?,
    c.systemDefault, c.fields.autoIncrement.truthy, c.fields.withTimeZone.truthy, none⟩

/-- A value of a limited type between apostrophes. -/
def valueLiteral (d : Dialect) : Doc → Except Problem String
  | .text s => .ok (Sql.textLiteral d s)
  | .bytes _ => .error (.fault .wrongKind)
  | _ => .error (.fault .noLetters)

/-- The length of a value of a limited type. -/
def valueLength : Doc → Except Problem Nat
  | .text s => .ok s.length
  | .bytes b => .ok b.length
  | .list items => .ok items.length
  | .mapping fields => .ok fields.length
  | _ => .error (.fault .wrongKind)

/-- A limited type in a dialect. -/
def enumSql (values : List Doc) : Dialect → Except Problem String
  | .mysql => do
    return "enum(" ++ ", ".intercalate (← values.mapM (valueLiteral .mysql)) ++ ")"
  | .pgsql => do
    return "varchar(" ++ Numeral.ofNat ((← values.mapM valueLength).foldl Nat.max 1) ++ ")"

/-- The type of the column in a dialect. -/
def sqlType (c : GivenColumn) (d : Dialect) : Except Problem String :=
  match c.columnType with
  | .base .enum => enumSql (c.enumValues.getD []) d
  | .base t => do
    let size ← if t.showsSize d then c.fields.size.shown else .ok ""
    let scale ← if t = .decimal then c.fields.scale.shown else .ok ""
    return t.sql ⟨size, scale, c.fields.withTimeZone.truthy, []⟩ d
  | .other label => .error (c.fields.name.worded (noSuchType label c.fields.name.display))

/-- Only a text is written as a name. -/
def checkName (c : GivenColumn) : Except Problem Unit :=
  match c.fields.name with
  | .text _ => .ok ()
  | _ => .error (.fault .wrongKind)

/-- The wanted parts of the definition of the column in this table. -/
def partsSql (c : GivenColumn) (table : String) (t : Target) (parts : Column.Parts) :
    Except Problem String := do
  let type ← if parts.type then (c.sqlType t.dialect).map ([·]) else .ok []
  if parts.default then c.fields.default.checkDigits
  let sql ← c.column.partsWith type table t parts
  if parts.name then c.checkName
  return sql

/-! ## Comparison -/

/-- Whether two columns are limited to the same values. -/
def sameValues? : Option (List Doc) → Option (List Doc) → Option Bool
  | none, none => some true
  | some xs, some ys => andThen? (Doc.sameItems? xs ys) (some (xs.length == ys.length))
  | _, _ => some false

/-- Whether two columns are equal in the fields that come first and that a view shows. -/
def sameFront? (a b : ColumnFields) : Option Bool :=
  andThen? (a.name.same? b.name) <|
  andThen? (a.type.same? b.type) <|
  andThen? (a.size.same? b.size) <|
  andThen? (a.scale.same? b.scale) <|
  a.nullable.same? b.nullable

/-- Whether two columns are equal in all fields. -/
def same? (a b : GivenColumn) : Option Bool :=
  andThen? (sameFront? a.fields b.fields) <|
  andThen? (a.fields.default.same? b.fields.default) <|
  andThen? (a.fields.systemDefault.same? b.fields.systemDefault) <|
  andThen? (a.fields.autoIncrement.same? b.fields.autoIncrement) <|
  andThen? (a.fields.withTimeZone.same? b.fields.withTimeZone) <|
  sameValues? a.enumValues b.enumValues

/-- Whether two columns look alike in a view of their table. -/
def sameInView? (a b : GivenColumn) : Option Bool :=
  andThen? (sameFront? a.fields b.fields) (sameValues? a.enumValues b.enumValues)

end GivenColumn

end SchemaPlan
