import SchemaPlan.Column.Sql
import SchemaPlan.Schema
import SchemaPlan.Text.Lines

/-!
# Statements

The statements that create and change a database, and their text.  A statement names what it
works on; `Statement.sql` writes it for a target, which adds the schema of local names and the
words of the dialect.  `script` puts statements into a script, one to a line and each ended by a
semicolon; one dialect does not check foreign keys while a script runs.
-/
namespace SchemaPlan

open SchemaPlan.Text

/-! ## Values -/

/-- A value in a statement. -/
inductive SqlValue where
  | null
  | system (reference : SystemReference)
  /-- A content as a literal. -/
  | quoted (content : Content)
  /-- A content as it stands. -/
  | plain (content : Content)
deriving DecidableEq

/-- The text of a value. -/
def SqlValue.sql (d : Dialect) : SqlValue → String
  | null => "NULL"
  | system reference => reference.sql d
  | quoted content => Sql.literal d content
  | plain content => content.bytewise

/-- A column that is to have a value. -/
structure Assignment where
  column : String
  value : SqlValue
deriving DecidableEq

/-- The text of an assignment. -/
def Assignment.sql (d : Dialect) (a : Assignment) : String :=
  a.column ++ " = " ++ a.value.sql d

/-- The text of the condition that the column has the value. -/
def Assignment.condition (d : Dialect) (a : Assignment) : String :=
  match a.value with
  | .null => a.column ++ " is NULL"
  | _ => a.sql d

/-- The clause that all conditions hold; without conditions there is no clause. -/
def whereClause (d : Dialect) (conditions : List Assignment) : String :=
  if conditions.isEmpty then ""
  else " where " ++ " and ".intercalate (conditions.map (·.condition d))

/-! ## Statements -/

/-- A column with its type in the dialect of the statement. -/
structure TypedColumn where
  column : Column
  type : String

/-- Where a column is put. -/
inductive ColumnPlace where
  /-- The dialect has no places. -/
  | unplaced
  | first
  | after (column : String)
deriving DecidableEq

/-- A change of a table. -/
inductive Change where
  | dropColumn (column : String)
  | addColumn (column : TypedColumn) (place : ColumnPlace)
  | changeColumn (column : TypedColumn) (place : ColumnPlace)
  | setType (column : TypedColumn)
  | setNullable (column : String) (nullable : Bool)
  | setDefault (column : Column)
  | dropPrimaryKey
  | addPrimaryKey (columns : List String)
  | dropForeignKey (key : String)
  | addForeignKey (key : ForeignKey)

/-- A statement. -/
inductive Statement where
  | dropTable (table : String)
  | dropView (table : String)
  | createView (table database : String)
  | dropSequence (table : String)
  | createSequence (table : String)
  /-- Creates the sequence unless it is there. -/
  | ensureSequence (table : String)
  | createTable (table : String) (columns : List TypedColumn) (primaryKey : Option (List String))
      (indexes : List Index)
  | createIndex (index : Index)
  | dropIndex (table index : String)
  | alter (table : String) (change : Change)
  | insert (table : String) (values : List Assignment)
  /-- Inserts a row unless there is one that meets the conditions. -/
  | insertUnless (table : String) (values conditions : List Assignment)
  | update (table : String) (values conditions : List Assignment)

/-! ## Text -/

/-- Names with commas between them. -/
def commaList (names : List String) : String :=
  ", ".intercalate names

/-- What a new table has on the dialect that has it. -/
def tableOptions : Dialect → String
  | .mysql => " engine=InnoDB character set utf8mb4 collate utf8mb4_general_ci"
  | .pgsql => ""

/-- The kind of an index, with a blank after it. -/
def Index.kindText (i : Index) : String :=
  if i.fulltext then "fulltext " else if i.unique then "unique " else ""

/-- A column of an index without the length in parentheses at its end. -/
def withoutLength (s : List Char) : List Char :=
  match s.reverse.dropWhile isBlank with
  | ')' :: rest =>
    let inner := rest.dropWhile isBlank
    let digits := inner.takeWhile isDecimalDigit
    match (inner.drop digits.length).dropWhile isBlank with
    | '(' :: front => if digits.isEmpty then s else (front.dropWhile isBlank).reverse
    | _ => s
  | _ => s

/-- A column of an index in a dialect; only one of them knows lengths. -/
def indexColumn (d : Dialect) (s : String) : String :=
  match d with
  | .mysql => s
  | .pgsql => String.ofList (withoutLength s.toList)

/-- An index inside the statement that creates its table. -/
def Index.inlineSql (i : Index) : String :=
  i.kindText ++ "index " ++ i.name ++ " (" ++ commaList i.columns ++ ")"

/-- The foreign table of a key: one in another database carries its own qualification. -/
def foreignName (t : Target) (table : String) : String :=
  if table.toList.contains '.' then table else t.qualify table

/-- The text of a place. -/
def ColumnPlace.sql : ColumnPlace → String
  | unplaced => ""
  | first => " first"
  | after column => " after " ++ column

/-- The definition of a typed column of a table. -/
def TypedColumn.sql (c : TypedColumn) (table : String) (t : Target) : String :=
  c.column.definitionWith c.type table t

/-- The text of a change of a table, after the name of the table. -/
def Change.sql (table : String) (t : Target) : Change → String
  | dropColumn column =>
    "drop column " ++ column ++ match t.dialect with
      | .mysql => ""
      | .pgsql => " cascade"
  | addColumn c place => "add column " ++ c.sql table t ++ place.sql
  | changeColumn c place =>
    "change column " ++ c.column.name ++ " " ++ c.sql table t ++ place.sql
  | setType c => "alter column " ++ c.column.name ++ " type " ++ c.type
  | setNullable column nullable =>
    "alter column " ++ column ++ if nullable then " drop not null" else " set not null"
  | setDefault c => "alter column " ++ c.name ++ " set " ++ c.defaultSql table t
  | dropPrimaryKey =>
    match t.dialect with
    | .mysql => "drop primary key"
    | .pgsql => "drop constraint if exists " ++ table ++ "_pkey"
  | addPrimaryKey columns => "add primary key (" ++ commaList columns ++ ")"
  | dropForeignKey key =>
    match t.dialect with
    | .mysql => "drop foreign key " ++ key
    | .pgsql => "drop constraint " ++ key
  | addForeignKey k =>
    "add constraint " ++ k.name ++ " foreign key (" ++ commaList (k.columns.map KeyPair.column) ++
      ") references " ++ foreignName t k.foreignTable ++ " (" ++
      commaList (k.columns.map KeyPair.foreignColumn) ++ ")"

/-- The start of a statement that inserts a row. -/
def insertSql (t : Target) (table : String) (values : List Assignment) : String :=
  "insert into " ++ t.qualify table ++ " (" ++ commaList (values.map Assignment.column) ++ ")"

/-- The values of a row. -/
def rowSql (d : Dialect) (values : List Assignment) : String :=
  commaList (values.map fun a => a.value.sql d)

/-- The parts of the statement that creates a table. -/
def tableParts (t : Target) (table : String) (columns : List TypedColumn)
    (primaryKey : Option (List String)) (indexes : List Index) : List String :=
  columns.map (·.sql table t) ++
    (match primaryKey with
      | some key => ["primary key (" ++ commaList key ++ ")"]
      | none => []) ++
    indexes.map Index.inlineSql

/-- The text of a statement. -/
def Statement.sql (t : Target) : Statement → String
  | dropTable table => "drop table if exists " ++ t.qualify table
  | dropView table => "drop view if exists " ++ t.qualify table
  | createView table database =>
    "create or replace view " ++ t.qualify table ++ " as select * from " ++ database ++ "." ++ table
  | dropSequence table => "drop sequence if exists " ++ t.sequence table
  | createSequence table => "create sequence " ++ t.sequence table
  | ensureSequence table => "create sequence if not exists " ++ t.sequence table
  | createTable table columns primaryKey indexes =>
    "create table " ++ t.qualify table ++ " (" ++
      commaList (tableParts t table columns primaryKey indexes) ++ ")" ++ tableOptions t.dialect
  | createIndex i =>
    "create " ++ i.kindText ++ "index " ++ i.name ++ " on " ++ t.qualify i.table ++ " (" ++
      commaList (i.columns.map (indexColumn t.dialect)) ++ ")"
  | dropIndex table index =>
    match t.dialect with
    | .mysql => "drop index " ++ index ++ " on " ++ t.qualify table
    | .pgsql => "drop index " ++ t.qualify index
  | alter table change => "alter table " ++ t.qualify table ++ " " ++ change.sql table t
  | insert table values =>
    insertSql t table values ++ " values (" ++ rowSql t.dialect values ++ ")"
  | insertUnless table values conditions =>
    insertSql t table values ++ " select " ++ rowSql t.dialect values ++
      (match t.dialect with
        | .mysql => " from dual"
        | .pgsql => "") ++
      " where not exists (select 1 from " ++ t.qualify table ++
      whereClause t.dialect conditions ++ ")"
  | update table values conditions =>
    "update " ++ t.qualify table ++ " set " ++ commaList (values.map (·.sql t.dialect)) ++
      whereClause t.dialect conditions

/-! ## Scripts -/

/-- The lines before the statements of a script. -/
def scriptHead : Dialect → List String
  | .mysql => ["set foreign_key_checks = 0;"]
  | .pgsql => []

/-- The lines after the statements of a script. -/
def scriptFoot : Dialect → List String
  | .mysql => ["set foreign_key_checks = 1;"]
  | .pgsql => []

/-- The text of a script; without statements it is empty. -/
def script (d : Dialect) (statements : List String) : String :=
  if statements.isEmpty then ""
  else
    "\n".intercalate (scriptHead d ++ statements.map (· ++ ";") ++ scriptFoot d) ++ "\n"

end SchemaPlan
