import SchemaPlan.Proofs.Column.Typed
import SchemaPlan.Proofs.Document.Fields
import SchemaPlan.Proofs.Seeding.Keys
import SchemaPlan.Proofs.Statement.Subject

/-!
# What statements are written with

The names in a statement, the columns it gives a type, the columns whose default it writes, and its
values.  The statements that create a schema have no names but those of the schema and of the
databases that its tables are mapped to, no columns but those of its tables, with their types, and
no values but those of its rows.

* `SeedRow.writtenFor_blindStatements` says this of a row.
* `Schema.writtenFor_creation` says this of the creation of a schema.
-/
namespace SchemaPlan

/-! ## Parts of statements -/

/-- The names in a place. -/
def ColumnPlace.names : ColumnPlace → List String
  | unplaced => []
  | first => []
  | after column => [column]

namespace Change

/-- The names in a change of a table. -/
def names : Change → List String
  | dropColumn column => [column]
  | addColumn c place => c.column.name :: place.names
  | changeColumn c place => c.column.name :: place.names
  | setType c => [c.column.name]
  | setNullable column _ => [column]
  | setDefault c => [c.name]
  | dropPrimaryKey => []
  | addPrimaryKey columns => columns
  | dropForeignKey key => [key]
  | addForeignKey k => k.names

/-- The columns that a change gives a type. -/
def typedColumns : Change → List TypedColumn
  | addColumn c _ => [c]
  | changeColumn c _ => [c]
  | setType c => [c]
  | _ => []

/-- The columns whose default a change writes. -/
def definedColumns : Change → List Column
  | addColumn c _ => [c.column]
  | changeColumn c _ => [c.column]
  | setDefault c => [c]
  | _ => []

end Change

namespace Statement

/-- The names in a statement. -/
def names : Statement → List String
  | dropTable table => [table]
  | dropView table => [table]
  | createView table database => [table, database]
  | dropSequence table => [table]
  | createSequence table => [table]
  | ensureSequence table => [table]
  | createTable table columns primaryKey indexes =>
    table :: (columns.map (·.column.name) ++ primaryKey.getD [] ++ indexes.flatMap Index.names)
  | createIndex i => i.names
  | dropIndex table index => [table, index]
  | alter table change => table :: change.names
  | insert table values => table :: values.map Assignment.column
  | insertUnless table values conditions =>
    table :: (values.map Assignment.column ++ conditions.map Assignment.column)
  | update table values conditions =>
    table :: (values.map Assignment.column ++ conditions.map Assignment.column)

/-- The columns that a statement gives a type. -/
def typedColumns : Statement → List TypedColumn
  | createTable _ columns _ _ => columns
  | alter _ change => change.typedColumns
  | _ => []

/-- The columns whose default a statement writes. -/
def definedColumns : Statement → List Column
  | createTable _ columns _ _ => columns.map TypedColumn.column
  | alter _ change => change.definedColumns
  | _ => []

/-- The values in a statement. -/
def values : Statement → List SqlValue
  | insert _ values => values.map Assignment.value
  | insertUnless _ values conditions =>
    values.map Assignment.value ++ conditions.map Assignment.value
  | update _ values conditions => values.map Assignment.value ++ conditions.map Assignment.value
  | _ => []

end Statement

/-- What is wanted of the names, the columns and the values that statements are written with. -/
structure Terms where
  name : String → Prop
  column : Column → Prop
  value : SqlValue → Prop

/-- A statement is written with what is wanted, and gives columns the types that they have. -/
structure Statement.WrittenFor (d : Dialect) (P : Terms) (s : Statement) : Prop where
  names : ∀ name ∈ s.names, P.name name
  typed : ∀ c ∈ s.typedColumns, c.column.typed d = .ok c
  defined : ∀ c ∈ s.definedColumns, P.column c
  values : ∀ v ∈ s.values, P.value v

/-- The names in a schema are as wanted. -/
def Schema.Named (P : String → Prop) (s : Schema) : Prop :=
  ∀ e ∈ s.entities, ∀ name ∈ e.names, P name

instance (P : String → Prop) [DecidablePred P] (s : Schema) : Decidable (s.Named P) :=
  inferInstanceAs (Decidable (∀ e ∈ s.entities, ∀ name ∈ e.names, P name))

/-- A schema has what is wanted to write statements with. -/
structure Schema.Supplies (P : Terms) (d : Deployment) (s : Schema) : Prop where
  names : s.Named P.name
  columns : ∀ t, .table t ∈ s.entities → ∀ c ∈ t.columns, P.column c
  values : ∀ r, .seed r ∈ s.entities → ∀ contents, (r.resolve d).outcome = .ok contents →
    ∀ c ∈ r.columns, P.value (SeedRow.assign contents c).value

/-- The databases that tables are mapped to are as wanted. -/
def MapsInto (P : String → Prop) (mapping : Option DatabaseMap) : Prop :=
  ∀ group table database, mappedDatabase mapping group table = some database → P database

/-! ## Creation -/

section Creation

variable {P : Terms} {d : Dialect}

/-- A statement that has only names in it. -/
theorem Statement.WrittenFor.of_names {s : Statement} (hnames : ∀ name ∈ s.names, P.name name)
    (hnone : s.typedColumns = [] ∧ s.definedColumns = [] ∧ s.values = []) : s.WrittenFor d P := by
  obtain ⟨htyped, hdefined, hvalues⟩ := hnone
  refine ⟨hnames, ?_, ?_, ?_⟩
  · rw [htyped]
    exact List.forall_mem_nil _
  · rw [hdefined]
    exact List.forall_mem_nil _
  · rw [hvalues]
    exact List.forall_mem_nil _

/-- A statement about a table that has nothing else in it. -/
theorem Statement.WrittenFor.of_table {s : Statement} {table : String} (htable : P.name table)
    (hnames : s.names = [table])
    (hnone : s.typedColumns = [] ∧ s.definedColumns = [] ∧ s.values = []) : s.WrittenFor d P :=
  .of_names (hnames ▸ List.forall_mem_singleton.mpr htable) hnone

/-- A statement about a table that has one more name in it. -/
theorem Statement.WrittenFor.of_pair {s : Statement} {table name : String} (htable : P.name table)
    (hname : P.name name) (hnames : s.names = [table, name])
    (hnone : s.typedColumns = [] ∧ s.definedColumns = [] ∧ s.values = []) : s.WrittenFor d P :=
  .of_names (hnames ▸ List.forall_mem_cons.mpr ⟨htable, List.forall_mem_singleton.mpr hname⟩) hnone

theorem writtenFor_viewStatements {table database : String} (htable : P.name table)
    (hdatabase : P.name database) :
    Each (Statement.WrittenFor d P) (viewStatements table database) :=
  .cons (.of_table htable rfl ⟨rfl, rfl, rfl⟩)
    (.singleton (.of_pair htable hdatabase rfl ⟨rfl, rfl, rfl⟩))

theorem Index.writtenFor_creation? {i : Index} (hi : ∀ name ∈ i.names, P.name name) :
    Each (Statement.WrittenFor d P) (i.creation? d).toList := by
  intro s hs
  obtain ⟨-, rfl⟩ := Index.creation?_eq_some_iff.mp (Option.mem_toList.mp hs)
  exact .of_names hi ⟨rfl, rfl, rfl⟩

theorem Table.writtenFor_clearing {t : Table} (ht : P.name t.name) :
    Each (Statement.WrittenFor d P) (t.clearing d) :=
  .append
    (.cons (.of_table ht rfl ⟨rfl, rfl, rfl⟩) (.singleton (.of_table ht rfl ⟨rfl, rfl, rfl⟩)))
    (.ite (.cons (.of_table ht rfl ⟨rfl, rfl, rfl⟩) (.singleton (.of_table ht rfl ⟨rfl, rfl, rfl⟩)))
      .nil)

theorem Table.writtenFor_creation {t : Table} (ht : ∀ name ∈ t.names, P.name name)
    (hcolumns : ∀ c ∈ t.columns, P.column c) {indexes : List Index}
    (hindexes : ∀ i ∈ indexes, ∀ name ∈ i.names, P.name name) {l : List Statement}
    (h : t.creation indexes d = .ok l) : Each (Statement.WrittenFor d P) l := by
  obtain ⟨hname, hothers⟩ := List.forall_mem_cons.mp ht
  rw [List.forall_mem_append, List.forall_mem_map] at hothers
  unfold Table.creation at h
  obtain ⟨columns, htyped, rfl⟩ := (bind_pure_eq_ok_iff _ _ _).mp h
  have hcolumn : ∀ c ∈ columns,
      P.name c.column.name ∧ P.column c.column ∧ c.column.typed d = .ok c := by
    refine forall_of_mapM htyped fun c hc typed htyped => ?_
    rw [Column.column_of_typed htyped]
    exact ⟨hothers.1 c hc, hcolumns c hc, htyped⟩
  have hdefined : ∀ c ∈ columns.map TypedColumn.column, P.column c :=
    List.forall_mem_map.mpr fun c hc => (hcolumn c hc).2.1
  refine .append (Table.writtenFor_clearing hname)
    (.cons ⟨?_, fun c hc => (hcolumn c hc).2.2, hdefined, List.forall_mem_nil _⟩ ?_)
  · simp only [Statement.names, List.forall_mem_cons, List.forall_mem_append, List.forall_mem_map]
    refine ⟨hname, ⟨fun c hc => (hcolumn c hc).1, hothers.2⟩, ?_⟩
    intro name hmem
    obtain ⟨i, hi, hin⟩ := List.mem_flatMap.mp hmem
    -- One dialect has the indexes inside the statement that creates the table.
    cases d with
    | mysql => exact hindexes i hi name hin
    | pgsql => exact absurd hi List.not_mem_nil
  · cases d with
    | mysql => exact .nil
    | pgsql =>
      intro x hx
      obtain ⟨i, hi, hcreated⟩ := List.mem_filterMap.mp hx
      exact Index.writtenFor_creation? (hindexes i hi) x (Option.mem_toList.mpr hcreated)

end Creation

namespace SeedRow

variable {P : Terms} {d : Dialect} {r : SeedRow} {contents : Contents}

/-- A row has values for its columns. -/
theorem column_assignments (r : SeedRow) (contents : Contents) :
    (r.assignments contents).map Assignment.column = r.columns.map SeedColumn.name := by
  rw [assignments, List.map_map]
  rfl

/-- A row is written under the names of its columns and of its keys, with the values of its
columns. -/
theorem writtenFor_blindStatements (hr : ∀ name ∈ r.names, P.name name)
    (hvalues : ∀ c ∈ r.columns, P.value (assign contents c).value) :
    Each (Statement.WrittenFor d P) (r.blindStatements contents) := by
  obtain ⟨htable, hothers⟩ := List.forall_mem_cons.mp hr
  obtain ⟨hcolumns, hkeys⟩ := List.forall_mem_append.mp hothers
  have hassigned : ∀ name ∈ (r.assignments contents).map Assignment.column, P.name name := by
    rwa [column_assignments]
  have hasked : ∀ name ∈ (r.conditions contents).map Assignment.column, P.name name := by
    rw [column_conditions]
    exact fun name hname => hkeys name (List.mem_of_mem_filter hname)
  have hgiven : ∀ v ∈ (r.assignments contents).map Assignment.value, P.value v := by
    rw [assignments, List.map_map, List.forall_mem_map]
    exact hvalues
  have hwanted : ∀ v ∈ (r.conditions contents).map Assignment.value, P.value v := by
    rw [List.forall_mem_map]
    intro a ha
    obtain ⟨key, -, hcondition⟩ := List.mem_filterMap.mp ha
    obtain ⟨c, hc, -, rfl⟩ := keyCondition?_eq_some_iff.mp hcondition
    exact hvalues c (column?_eq_some hc).1
  have hnames := List.forall_mem_cons.mpr
    ⟨htable, List.forall_mem_append.mpr ⟨hassigned, hasked⟩⟩
  have hboth := List.forall_mem_append.mpr ⟨hgiven, hwanted⟩
  have hfirst := List.forall_mem_cons.mpr ⟨htable, hassigned⟩
  unfold blindStatements
  exact .ite (.singleton ⟨hfirst, List.forall_mem_nil _, List.forall_mem_nil _, hgiven⟩)
    (.cons ⟨hnames, List.forall_mem_nil _, List.forall_mem_nil _, hboth⟩
      (.ite (.singleton ⟨hnames, List.forall_mem_nil _, List.forall_mem_nil _, hboth⟩) .nil))

end SeedRow

namespace Schema

variable {Q : String → Prop} {P : Terms} {s : Schema} {d : Deployment}

theorem Named.table (h : s.Named Q) {name : String} {t : Table} (ht : s.table? name = some t) :
    ∀ name ∈ t.names, Q name :=
  h _ (s.table?_eq_some ht).2

theorem Named.indexesOf (h : s.Named Q) (table : String) :
    ∀ i ∈ (s.indexesOf table).values, ∀ name ∈ i.names, Q name := by
  intro i hi
  rw [indexesOf_eq] at hi
  have hmem := List.mem_of_mem_filter (Ordered.mem_of_mem_collect hi)
  exact h (.index i) (s.mem_declaredIndexes.mp hmem)

theorem Named.foreignKeysOf (h : s.Named Q) (table : String) :
    ∀ k ∈ (s.foreignKeysOf table).values, ∀ name ∈ k.names, Q name := by
  intro k hk
  rw [foreignKeysOf_eq] at hk
  have hmem := List.mem_of_mem_filter (Ordered.mem_of_mem_collect hk)
  exact h (.foreignKey k) (s.mem_declaredKeys.mp hmem)

theorem Named.keys_indexesOf (h : s.Named Q) (table : String) :
    ∀ name ∈ (s.indexesOf table).keys, Q name := by
  rw [← (s.isTableMap_indexesOf table).keyed.map_values, List.forall_mem_map]
  exact fun i hi => h.indexesOf table i hi _ List.mem_cons_self

theorem Named.keys_foreignKeysOf (h : s.Named Q) (table : String) :
    ∀ name ∈ (s.foreignKeysOf table).keys, Q name := by
  rw [← (s.isTableMap_foreignKeysOf table).keyed.map_values, List.forall_mem_map]
  exact fun k hk => h.foreignKeysOf table k hk _ List.mem_cons_self

theorem Named.tableNames (h : s.Named Q) : ∀ name ∈ s.tableNames, Q name := by
  intro name hname
  obtain ⟨t, ht⟩ := Option.isSome_iff_exists.mp (s.mem_tableNames.mp hname)
  rw [← (s.table?_eq_some ht).1]
  exact h.table ht _ List.mem_cons_self

/-- **Creating a schema** brings in nothing but what the schema and the databases supply. -/
theorem writtenFor_creation (hs : s.Supplies P d) (hdatabases : MapsInto P.name d.mapping)
    {l : List Statement} (h : (s.creation d).outcome = .ok l) :
    Each (Statement.WrittenFor d.target.dialect P) l := by
  obtain ⟨htables, hkeys, hseeds, rfl⟩ := creation_eq_ok_iff.mp h
  refine .append (.append (.flatMap fun e he => ?_) (.flatMap fun e he => ?_))
    (.flatMap fun e he => ?_)
  · rcases tableStatements_cases (htables e he) with ⟨t, database, rfl, hmapped, hl⟩ |
      ⟨t, rfl, -, hcreation⟩ | ⟨i, rfl, -, hl⟩ | ⟨-, hl⟩
    · rw [hl]
      exact writtenFor_viewStatements (hs.names _ he _ List.mem_cons_self)
        (hdatabases _ _ _ hmapped)
    · exact Table.writtenFor_creation (hs.names _ he) (hs.columns t he)
        (hs.names.indexesOf t.name) hcreation
    · rw [hl]
      exact Index.writtenFor_creation? (hs.names _ he)
    · rw [hl]
      exact .nil
  · rcases keyStatements_cases (hkeys e he) with ⟨k, rfl, -, hl⟩ | hl
    · rw [hl]
      have hk : ∀ name ∈ k.names, P.name name := hs.names _ he
      have htable : P.name k.table := hk _ (List.mem_cons_of_mem _ List.mem_cons_self)
      exact .singleton (.of_names (List.forall_mem_cons.mpr ⟨htable, hk⟩) ⟨rfl, rfl, rfl⟩)
    · rw [hl]
      exact .nil
  · rcases seedStatements_cases (hseeds e he) with ⟨r, contents, rfl, -, hcontents, hl⟩ | hl
    · rw [hl]
      exact SeedRow.writtenFor_blindStatements (hs.names _ he) (hs.values r he contents hcontents)
    · rw [hl]
      exact .nil

end Schema

end SchemaPlan
