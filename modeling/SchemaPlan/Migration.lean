import SchemaPlan.Creation
import SchemaPlan.Merge

/-!
# Changing one schema into another

The statements that change an old schema into a new one.  They come in phases: foreign keys and
indexes that are stale, tables that are gone, new tables, changed tables, and last the foreign
keys, when every table they refer to is there.  Without permission nothing is dropped that the new
schema does not name.

* `Migration.staleKeys` and `Migration.staleIndexes` are dropped in the first phase, if that is
  allowed; the later phases drop only what is left.
* `Migration.run` puts the phases together.
* `Migration.sql` is the merged text of the run.
-/
namespace SchemaPlan

/-- What may be dropped. -/
structure Permissions where
  dropTable : Bool
  dropColumn : Bool
  dropIndex : Bool
deriving DecidableEq

/-- The answer of a comparison; none is a comparison with a signalling number. -/
def answered : Option Bool → Except Problem Bool
  | some answer => .ok answer
  | none => .error (.fault .incomparable)

/-! ## Columns -/

/-- The place after a column; none is the place of the first column. -/
def placeAfter (d : Dialect) (previous : Option String) : ColumnPlace :=
  match d, previous with
  | .pgsql, _ => .unplaced
  | .mysql, none => .first
  | .mysql, some column => .after column

/-- Whether the type of a column changes.  Types of bytes are one type where types are changed. -/
def typeChanges (old new : Column) : Except Problem Bool :=
  if !old.type.isKey then .error (.fault .wrongKind)
  else
    match old.type, new.type with
    | .base s, .base t =>
      .ok (!(s.isBinary && t.isBinary) &&
        (s != t || (t == .datetime && old.withTimeZone != new.withTimeZone) ||
          old.size != new.size || old.scale != new.scale ||
          (t == .enum && old.enumValues != new.enumValues)))
    | _, _ => .ok true

/-- The statements that change a column piece by piece. -/
def piecewiseChange (table : String) (old new : Column) (type : String) :
    Except Problem (List Statement) := do
  let newType ← typeChanges old new
  let sameDefault ← answered (sameDefault? old.default new.default)
  let newDefault := !sameDefault || old.systemDefault != new.systemDefault ||
    old.autoIncrement != new.autoIncrement
  return (if newType then [.alter table (.setType ⟨new, type⟩)] else []) ++
    (if old.nullable != new.nullable then [.alter table (.setNullable new.name new.nullable)]
      else []) ++
    if newDefault then
      (if new.autoIncrement && !old.autoIncrement then [.ensureSequence table] else []) ++
        .alter table (.setDefault new) ::
        (if old.autoIncrement && !new.autoIncrement then [.dropSequence table] else [])
    else []

/-- The statements for a column of the new table.  In a view only what it shows matters. -/
def columnChange (d : Dialect) (table : String) (isView : Bool) (previous : Option String)
    (old : Option Column) (new : Column) : Except Problem (List Statement) :=
  match old with
  | none => do
    let typed ← new.typed d
    return (if new.autoIncrement && d == .pgsql then [.ensureSequence table] else []) ++
      [.alter table (.addColumn typed (placeAfter d previous))]
  | some old => do
    if ← answered (old.same? new) then return []
    if ← (if isView then answered (new.sameInView? old) else .ok false) then return []
    let typed ← new.typed d
    match d with
    | .mysql => return [.alter table (.changeColumn typed (placeAfter d previous))]
    | .pgsql => piecewiseChange table old new typed.type

/-- The statements for columns of the new table, the first of them standing after this one. -/
def columnChanges (d : Dialect) (old : Table) (table : String) (isView : Bool) :
    Option String → List Column → Except Problem (List Statement)
  | _, [] => .ok []
  | previous, c :: rest => do
    let first ← columnChange d table isView previous (old.column? c.name) c
    let others ← columnChanges d old table isView (some c.name) rest
    return first ++ others

/-- The statements that drop the columns that the new table does not have. -/
def columnDrops (d : Dialect) (old new : Table) : List Statement :=
  old.columns.flatMap fun c =>
    if (new.column? c.name).isSome then []
    else
      .alter new.name (.dropColumn c.name) ::
        if c.autoIncrement && d == .pgsql then [.dropSequence new.name] else []

/-- The statements that change the columns of a table. -/
def tableColumnChanges (d : Dialect) (old new : Table) (isView allowDrop : Bool) :
    Except Problem (List Statement) := do
  let changes ← columnChanges d old new.name isView none new.columns
  return (if allowDrop then columnDrops d old new else []) ++ changes

/-- The statements that change the primary key of a table. -/
def primaryKeyChanges (old new : Table) : List Statement :=
  if old.primaryKey = new.primaryKey then []
  else
    (if old.primaryKey.isSome then [.alter new.name .dropPrimaryKey] else []) ++
      match new.primaryKey with
      | some key => [.alter new.name (.addPrimaryKey key)]
      | none => []

/-! ## The migration -/

/-- A change of one schema into another. -/
structure Migration where
  old : Schema
  new : Schema
  deployment : Deployment
  allow : Permissions

namespace Migration

variable (m : Migration)

/-- The dialect of the statements. -/
def dialect : Dialect := m.deployment.target.dialect

/-- The tables of both schemas. -/
def common : List String := m.old.commonTableNames m.new

/-- The tables of the new schema alone. -/
def added : List String := m.new.tableNames.filter fun name => (m.old.table? name).isNone

/-- The tables of the old schema alone. -/
def removed : List String := m.old.tableNames.filter fun name => (m.new.table? name).isNone

/-- The database that the new schema's table is mapped to. -/
def databaseOf (table : String) : Option String :=
  m.new.mappedDatabase m.deployment.mapping table

/-! ### Stale keys and indexes -/

/-- The old foreign keys that the new schema does not have as they are. -/
def staleKeys (table : String) : List String :=
  let new := m.new.foreignKeysOf table
  ((m.old.foreignKeysOf table).entries.filter fun (name, key) =>
    new.get? name != some key).map Prod.fst

/-- Whether an index of this name backs a foreign key that stays as it is. -/
def backsKey (table name : String) : Bool :=
  m.dialect == .mysql &&
    match (m.new.foreignKeysOf table).get? name with
    | none => false
    | some new =>
      match (m.old.foreignKeysOf table).get? name with
      | none => true
      | some old => old == new

/-- The old indexes that the new schema does not have as they are. -/
def staleIndexes (table : String) : List String :=
  let new := m.new.indexesOf table
  ((m.old.indexesOf table).entries.filter fun (name, index) =>
    new.get? name != some index && !m.backsKey table name).map Prod.fst

/-- Whether a foreign key takes an index of its name with it when it is dropped. -/
def hasBackingIndex (table key : String) : Bool :=
  m.dialect == .mysql && (m.old.indexesOf table).has key

/-- The statements that drop a foreign key, and the index that backs it unless it is gone. -/
def keyDrop (table : String) (dropped : List String) (key : String) : List Statement :=
  .alter table (.dropForeignKey key) ::
    if m.hasBackingIndex table key && !dropped.contains key then [.dropIndex table key] else []

/-- The foreign keys that are dropped first. -/
def earlyKeys (table : String) : List String :=
  if m.allow.dropIndex then m.staleKeys table else []

/-- The indexes that are dropped along with them. -/
def backingIndexes (table : String) : List String :=
  (m.earlyKeys table).filter (m.hasBackingIndex table)

/-- The other indexes that are dropped first. -/
def earlyIndexes (table : String) : List String :=
  let backing := m.backingIndexes table
  if m.allow.dropIndex then (m.staleIndexes table).filter fun name => !backing.contains name
  else []

/-- All indexes that are dropped first. -/
def droppedEarly (table : String) : List String :=
  m.backingIndexes table ++ m.earlyIndexes table

/-- The statements that drop what is stale. -/
def staleDrops (table : String) : List Statement :=
  (m.earlyKeys table).flatMap (m.keyDrop table []) ++
    (m.earlyIndexes table).map (.dropIndex table)

/-! ### Tables -/

/-- The statements that drop a table. -/
def tableDrops (table : String) : List Statement :=
  [.dropTable table, .dropView table] ++
    if m.dialect == .pgsql then [.dropSequence table] else []

/-- A table of the new schema with its indexes and seed rows. -/
def partOf (table : String) : Schema :=
  ⟨((m.new.table? table).map Entity.table).toList ++
    (m.new.indexesOf table).values.map Entity.index ++ (m.new.seedsOf table).map Entity.seed⟩

/-- The statements that create a table with its indexes and seed rows. -/
def tableCreation (table : String) : Noted (List Statement) :=
  (m.partOf table).creation m.deployment

/-! ### Indexes of a table that stays -/

/-- Whether an index has to be dropped before it is created anew, these being dropped already. -/
def isRedropped (table : String) (dropped : List String) (index : Index) : Bool :=
  (m.old.indexesOf table).has index.name && !dropped.contains index.name

/-- The indexes that are new or changed. -/
def changedIndexes (table : String) : List Index :=
  let old := m.old.indexesOf table
  (m.new.indexesOf table).values.filter fun index => old.get? index.name != some index

/-- The statements that change the indexes of a table. -/
def indexChanges (table : String) : List Statement :=
  let dropped := m.droppedEarly table
  (m.changedIndexes table).flatMap fun index =>
    (if m.isRedropped table dropped index then [.dropIndex table index.name] else []) ++
      (index.creation? m.dialect).toList

/-- All indexes that are dropped before the last phase. -/
def droppedBeforeKeys (table : String) : List String :=
  let dropped := m.droppedEarly table
  dropped ++ ((m.changedIndexes table).filter (m.isRedropped table dropped)).map Index.name

/-- The statements that change a table of both schemas.  One in another database is a view, which
is made anew if anything that it shows has changed. -/
def tableChanges (table : String) : Except Problem (List Statement) :=
  match m.old.table? table, m.new.table? table with
  | some old, some new =>
    match m.databaseOf table with
    | some database => do
      let columns ← tableColumnChanges m.dialect old new true m.allow.dropColumn
      return if columns.isEmpty then [] else viewStatements table database
    | none => do
      let columns ← tableColumnChanges m.dialect old new false m.allow.dropColumn
      return columns ++ primaryKeyChanges old new ++ m.indexChanges table
  | _, _ => .ok []

/-! ### Foreign keys -/

/-- The statements that create the foreign keys of a new table. -/
def keyCreation (table : String) : List Statement :=
  if (m.databaseOf table).isSome then []
  else (m.new.foreignKeysOf table).values.map fun k => .alter table (.addForeignKey k)

/-- Whether the foreign table of a key is a local table of the new schema. -/
def refersLocally (k : ForeignKey) : Bool :=
  (m.new.table? k.foreignTable).isSome && (m.databaseOf k.foreignTable).isNone

/-- The statements that change a foreign key of a table of both schemas, these keys and indexes
being dropped already. -/
def keyChange (table : String) (droppedKeys droppedIndexes : List String) (k : ForeignKey) :
    List Statement :=
  let old := (m.old.foreignKeysOf table).get? k.name
  if old = some k then []
  else
    (if old.isSome && !droppedKeys.contains k.name then m.keyDrop table droppedIndexes k.name
    else []) ++
      if m.refersLocally k then [.alter table (.addForeignKey k)] else []

/-- The statements that change the foreign keys of a table of both schemas. -/
def keyChanges (table : String) : List Statement :=
  if (m.databaseOf table).isSome then []
  else
    (m.new.foreignKeysOf table).values.flatMap
      (m.keyChange table (m.earlyKeys table) (m.droppedBeforeKeys table))

/-! ### The run -/

/-- The phases of the migration, table by table. -/
def phases : List (Noted (List Statement)) :=
  m.common.map (fun table => pure (m.staleDrops table)) ++
    (if m.allow.dropTable then m.removed.map fun table => pure (m.tableDrops table) else []) ++
    m.added.map m.tableCreation ++
    m.common.map (fun table => .ofExcept (m.tableChanges table)) ++
    m.added.map (fun table => pure (m.keyCreation table)) ++
    m.common.map (fun table => pure (m.keyChanges table))

/-- The statements of the migration. -/
def run : Noted (List Statement) := do
  Noted.note (.reconciling m.common.length m.added.length m.removed.length)
  Noted.gather m.phases

/-- The text of the migration, merged up to a bound. -/
def sql (bound : Int) : Noted (List String) := do
  let statements ← m.run
  let merged := merge bound (statements.map (·.sql m.deployment.target))
  Noted.note (.merged statements.length merged.length)
  return merged

end Migration

end SchemaPlan
