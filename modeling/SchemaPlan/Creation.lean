import SchemaPlan.Seeding

/-!
# Creating a schema

The statements that create every entity of a schema from scratch: tables with their indexes first,
then foreign keys, then seed rows, so that whatever a statement refers to is there when it runs.
A table that lives in another database is written as a view of it.
-/
namespace SchemaPlan

/-- The statements that make a table a view of the table in another database. -/
def viewStatements (table database : String) : List Statement :=
  [.dropTable table, .createView table database]

/-- The statement that creates an index, unless the dialect has no such index. -/
def Index.creation? (i : Index) (d : Dialect) : Option Statement :=
  if i.fulltext && d != .mysql then none else some (.createIndex i)

/-- A column with its type in a dialect, if its definition can be written. -/
def Column.typed (c : Column) (d : Dialect) : Except Problem TypedColumn := do
  let type ← c.sqlType d
  c.checkDefault
  return ⟨c, type⟩

/-- The statements that make room for a table. -/
def Table.clearing (t : Table) (d : Dialect) : List Statement :=
  [.dropTable t.name, .dropView t.name] ++
    if t.autoIncrement?.isSome && d == .pgsql then [.dropSequence t.name, .createSequence t.name]
    else []

/-- The statements that create a table with its indexes; one dialect creates them inside of the
table, the other one after it. -/
def Table.creation (t : Table) (indexes : List Index) (d : Dialect) :
    Except Problem (List Statement) := do
  let columns ← t.columns.mapM (·.typed d)
  let own := match d with
    | .mysql => indexes
    | .pgsql => []
  let trailing := match d with
    | .mysql => []
    | .pgsql => indexes.filterMap (·.creation? d)
  return t.clearing d ++ .createTable t.name columns t.primaryKey own :: trailing

namespace Schema

/-- What a table or an index contributes; the indexes of a table come with it. -/
def tableStatements (s : Schema) (d : Deployment) : Entity → Noted (List Statement)
  | .table t =>
    match SchemaPlan.mappedDatabase d.mapping t.group t.name with
    | some database => do
      Noted.note (.view t.name database)
      return viewStatements t.name database
    | none => .ofExcept (t.creation (s.indexesOf t.name).values d.target.dialect)
  | .index i =>
    if (s.table? i.table).isNone then pure (i.creation? d.target.dialect).toList else pure []
  | _ => pure []

/-- What a foreign key contributes, if its table is local. -/
def keyStatements (s : Schema) (d : Deployment) : Entity → Noted (List Statement)
  | .foreignKey k =>
    if (s.mappedDatabase d.mapping k.table).isNone then pure [.alter k.table (.addForeignKey k)]
    else pure []
  | _ => pure []

/-- What a seed row contributes, if its table is local. -/
def seedStatements (s : Schema) (d : Deployment) : Entity → Noted (List Statement)
  | .seed r => if (s.mappedDatabase d.mapping r.table).isNone then r.statements d else pure []
  | _ => pure []

/-- The statements that create the schema. -/
def creation (s : Schema) (d : Deployment) : Noted (List Statement) :=
  Noted.gather <|
    s.entities.map (s.tableStatements d) ++ s.entities.map (s.keyStatements d) ++
      s.entities.map (s.seedStatements d)

/-- The statements that create the schema, as text. -/
def creationSql (s : Schema) (d : Deployment) : Noted (List String) := do
  return (← s.creation d).map (·.sql d.target)

end Schema

end SchemaPlan
