import SchemaPlan.Proofs.Migration.Run
import SchemaPlan.Proofs.Statement.Terms

/-!
# What a migration is written with

A migration has no names but those of its two schemas and of the databases that tables are mapped
to: what is dropped is named as in the old schema, what is added as in the new one.  Its columns and
its values are those of the new schema, and the columns that it gives a type have that type.

* `writtenFor_tableColumnChanges` says so of the columns of a table.
* `Migration.writtenFor_run` says so of the whole run.
-/
namespace SchemaPlan

variable {P : Terms} {d : Dialect} {table : String}

/-! ## Columns -/

/-- A change of a table names the table besides. -/
theorem Statement.WrittenFor.alter {change : Change} (htable : P.name table)
    (hnames : ∀ name ∈ change.names, P.name name)
    (htyped : ∀ c ∈ change.typedColumns, c.column.typed d = .ok c)
    (hdefined : ∀ c ∈ change.definedColumns, P.column c) :
    Statement.WrittenFor d P (.alter table change) :=
  ⟨List.forall_mem_cons.mpr ⟨htable, hnames⟩, htyped, hdefined, List.forall_mem_nil _⟩

/-- A change that has only names in it. -/
theorem Statement.WrittenFor.alter_of_names {change : Change} (htable : P.name table)
    (hnames : ∀ name ∈ change.names, P.name name)
    (hnone : change.typedColumns = [] ∧ change.definedColumns = []) :
    Statement.WrittenFor d P (.alter table change) :=
  .of_names (List.forall_mem_cons.mpr ⟨htable, hnames⟩) ⟨hnone.1, hnone.2, rfl⟩

/-- A column is put behind the one that stands before it. -/
theorem names_placeAfter {previous : Option String} (h : ∀ name ∈ previous, P.name name) :
    ∀ name ∈ (placeAfter d previous).names, P.name name := by
  unfold placeAfter
  split
  · exact List.forall_mem_nil _
  · exact List.forall_mem_nil _
  · exact List.forall_mem_singleton.mpr (h _ rfl)

section Columns

variable {old new : Column} {isView : Bool} {previous : Option String} {l : List Statement}

theorem writtenFor_defaultPieces (htable : P.name table) (hnew : P.name new.name ∧ P.column new) :
    Each (Statement.WrittenFor d P) (defaultPieces table old new) := by
  refine .append (.ite (.singleton ?_) .nil) (.cons ?_ (.ite (.singleton ?_) .nil))
  · exact .of_table htable rfl ⟨rfl, rfl, rfl⟩
  · exact .alter htable (List.forall_mem_singleton.mpr hnew.1) (List.forall_mem_nil _)
      (List.forall_mem_singleton.mpr hnew.2)
  · exact .of_table htable rfl ⟨rfl, rfl, rfl⟩

theorem writtenFor_piecewiseChange (htable : P.name table)
    (hnew : P.name new.name ∧ P.column new) {typed : TypedColumn}
    (htyped : new.typed d = .ok typed) (h : piecewiseChange table old new typed.type = .ok l) :
    Each (Statement.WrittenFor d P) l := by
  obtain ⟨newType, same, -, -, rfl⟩ := piecewiseChange_iff.mp h
  have hname : ∀ name ∈ [new.name], P.name name := List.forall_mem_singleton.mpr hnew.1
  have htype : new.typed d = .ok ⟨new, typed.type⟩ := by
    obtain ⟨type, -, -, rfl⟩ := Column.typed_eq_ok_iff.mp htyped
    exact htyped
  refine .append (.append (.ite (.singleton ?_) .nil) (.ite (.singleton ?_) .nil))
    (.ite (writtenFor_defaultPieces htable hnew) .nil)
  · exact .alter htable hname (List.forall_mem_singleton.mpr htype) (List.forall_mem_nil _)
  · exact .alter_of_names htable hname ⟨rfl, rfl⟩

theorem writtenFor_columnChange {old : Option Column} (htable : P.name table)
    (hnew : P.name new.name ∧ P.column new) (hprevious : ∀ name ∈ previous, P.name name)
    (h : columnChange d table isView previous old new = .ok l) :
    Each (Statement.WrittenFor d P) l := by
  have hplaced {typed : TypedColumn} (htyped : new.typed d = .ok typed) :
      (∀ name ∈ typed.column.name :: (placeAfter d previous).names, P.name name) ∧
        (∀ c ∈ [typed], c.column.typed d = .ok c) ∧ ∀ c ∈ [typed.column], P.column c := by
    rw [List.forall_mem_cons, List.forall_mem_singleton, List.forall_mem_singleton,
      Column.column_of_typed htyped]
    exact ⟨⟨hnew.1, names_placeAfter hprevious⟩, htyped, hnew.2⟩
  cases old with
  | none =>
    obtain ⟨typed, htyped, rfl⟩ := columnChange_none_iff.mp h
    obtain ⟨hnames, htypes, hdefined⟩ := hplaced htyped
    exact .append (.ite (.singleton (.of_table htable rfl ⟨rfl, rfl, rfl⟩)) .nil)
      (.singleton (.alter htable hnames htypes hdefined))
  | some old =>
    rcases columnChange_some_iff.mp h with ⟨-, rfl⟩ | ⟨-, -, -, rfl⟩ | ⟨-, -, hwhole⟩
    · exact .nil
    · exact .nil
    · cases d with
      | mysql =>
        obtain ⟨typed, htyped, rfl⟩ := wholeChange_mysql_iff.mp hwhole
        obtain ⟨hnames, htypes, hdefined⟩ := hplaced htyped
        exact .singleton (.alter htable hnames htypes hdefined)
      | pgsql =>
        obtain ⟨typed, htyped, hpieces⟩ := wholeChange_pgsql_iff.mp hwhole
        exact writtenFor_piecewiseChange htable hnew htyped hpieces

/-- Each column is put behind the one before it. -/
theorem writtenFor_columnChanges {old : Table} {columns : List Column} (htable : P.name table)
    (hcolumns : ∀ c ∈ columns, P.name c.name ∧ P.column c)
    (hprevious : ∀ name ∈ previous, P.name name)
    (h : columnChanges d old table isView previous columns = .ok l) :
    Each (Statement.WrittenFor d P) l := by
  induction columns generalizing previous l with
  | nil =>
    cases h
    exact .nil
  | cons c rest ih =>
    obtain ⟨first, others, hfirst, hothers, rfl⟩ := columnChanges_cons_iff.mp h
    obtain ⟨hc, hrest⟩ := List.forall_mem_cons.mp hcolumns
    have hnext : ∀ name ∈ some c.name, P.name name := by
      intro name hname
      cases hname
      exact hc.1
    exact .append (writtenFor_columnChange htable hc hprevious hfirst) (ih hrest hnext hothers)

end Columns

section Tables

variable {old new : Table} {isView allowDrop : Bool} {l : List Statement}

/-- The columns of a table are named in it. -/
theorem Table.name_of_names {Q : String → Prop} {t : Table} (ht : ∀ name ∈ t.names, Q name) :
    ∀ c ∈ t.columns, Q c.name := by
  obtain ⟨-, hothers⟩ := List.forall_mem_cons.mp ht
  exact List.forall_mem_map.mp (List.forall_mem_append.mp hothers).1

theorem writtenFor_columnDrops (hold : ∀ name ∈ old.names, P.name name) (htable : P.name new.name) :
    Each (Statement.WrittenFor d P) (columnDrops d old new) := by
  refine .flatMap fun c hc => .ite .nil (.cons ?_ (.ite (.singleton ?_) .nil))
  · exact .alter_of_names htable (List.forall_mem_singleton.mpr (Table.name_of_names hold c hc))
      ⟨rfl, rfl⟩
  · exact .of_table htable rfl ⟨rfl, rfl, rfl⟩

/-- **The changes of columns** name the columns of the two tables, and define those of the new one. -/
theorem writtenFor_tableColumnChanges (hold : ∀ name ∈ old.names, P.name name)
    (hnew : ∀ name ∈ new.names, P.name name) (hcolumns : ∀ c ∈ new.columns, P.column c)
    (h : tableColumnChanges d old new isView allowDrop = .ok l) :
    Each (Statement.WrittenFor d P) l := by
  obtain ⟨changes, hchanges, rfl⟩ := tableColumnChanges_iff.mp h
  have htable : P.name new.name := hnew _ List.mem_cons_self
  have hfirst : ∀ name ∈ (none : Option String), P.name name := fun name hname => by cases hname
  exact .append (.ite (writtenFor_columnDrops hold htable) .nil)
    (writtenFor_columnChanges htable
      (fun c hc => ⟨Table.name_of_names hnew c hc, hcolumns c hc⟩) hfirst hchanges)

theorem writtenFor_primaryKeyChanges (hnew : ∀ name ∈ new.names, P.name name) :
    Each (Statement.WrittenFor d P) (primaryKeyChanges old new) := by
  obtain ⟨htable, hothers⟩ := List.forall_mem_cons.mp hnew
  have hkey := (List.forall_mem_append.mp hothers).2
  unfold primaryKeyChanges
  refine .ite .nil (.append (.ite (.singleton ?_) .nil) ?_)
  · exact .alter_of_names htable (List.forall_mem_nil _) ⟨rfl, rfl⟩
  · cases hprimary : new.primaryKey with
    | none => exact .nil
    | some key =>
      rw [hprimary] at hkey
      exact .singleton (.alter_of_names htable hkey ⟨rfl, rfl⟩)

end Tables

/-! ## Keys and indexes -/

namespace Migration

variable {m : Migration} {statements : List Statement}

theorem writtenFor_keyDrop {key : String} (htable : P.name table) (hkey : P.name key)
    (dropped : List String) :
    Each (Statement.WrittenFor m.dialect P) (m.keyDrop table dropped key) := by
  refine .cons ?_ (.ite (.singleton ?_) .nil)
  · exact .alter_of_names htable (List.forall_mem_singleton.mpr hkey) ⟨rfl, rfl⟩
  · exact .of_pair htable hkey rfl ⟨rfl, rfl, rfl⟩

/-- What is stale is named in the old schema. -/
theorem writtenFor_staleDrops (hold : m.old.Named P.name) (htable : P.name table) :
    Each (Statement.WrittenFor m.dialect P) (m.staleDrops table) := by
  have hkeys : ∀ key ∈ m.earlyKeys table, P.name key := by
    intro key hkey
    unfold earlyKeys staleKeys at hkey
    rw [List.mem_ite_nil_right, List.mem_map] at hkey
    obtain ⟨-, entry, hentry, rfl⟩ := hkey
    exact hold.keys_foreignKeysOf table _ (List.mem_map_of_mem (List.mem_of_mem_filter hentry))
  have hindexes : ∀ index ∈ m.earlyIndexes table, P.name index := by
    intro index hindex
    unfold earlyIndexes staleIndexes at hindex
    rw [List.mem_ite_nil_right] at hindex
    obtain ⟨entry, hentry, rfl⟩ := List.mem_map.mp (List.mem_of_mem_filter hindex.2)
    exact hold.keys_indexesOf table _ (List.mem_map_of_mem (List.mem_of_mem_filter hentry))
  exact .append (.flatMap fun key hkey => writtenFor_keyDrop htable (hkeys key hkey) [])
    (.map fun index hindex => .of_pair htable (hindexes index hindex) rfl ⟨rfl, rfl, rfl⟩)

theorem writtenFor_tableDrops (htable : P.name table) :
    Each (Statement.WrittenFor m.dialect P) (m.tableDrops table) :=
  .append
    (.cons (.of_table htable rfl ⟨rfl, rfl, rfl⟩)
      (.singleton (.of_table htable rfl ⟨rfl, rfl, rfl⟩)))
    (.ite (.singleton (.of_table htable rfl ⟨rfl, rfl, rfl⟩)) .nil)

theorem writtenFor_indexChanges (hnew : m.new.Named P.name) (htable : P.name table) :
    Each (Statement.WrittenFor m.dialect P) (m.indexChanges table) := by
  refine .flatMap fun index hindex => ?_
  have hnames := hnew.indexesOf table index (List.mem_of_mem_filter hindex)
  have hname : P.name index.name := hnames _ List.mem_cons_self
  refine .append (.ite (.singleton ?_) .nil) (Index.writtenFor_creation? hnames)
  exact .of_pair htable hname rfl ⟨rfl, rfl, rfl⟩

theorem writtenFor_addForeignKey (htable : P.name table) {k : ForeignKey}
    (hk : ∀ name ∈ k.names, P.name name) :
    Statement.WrittenFor d P (.alter table (.addForeignKey k)) :=
  .alter_of_names htable hk ⟨rfl, rfl⟩

theorem writtenFor_keyCreation (hnew : m.new.Named P.name) (htable : P.name table) :
    Each (Statement.WrittenFor m.dialect P) (m.keyCreation table) :=
  .ite .nil (.map fun k hk => writtenFor_addForeignKey htable (hnew.foreignKeysOf table k hk))

theorem writtenFor_keyChanges (hnew : m.new.Named P.name) (htable : P.name table) :
    Each (Statement.WrittenFor m.dialect P) (m.keyChanges table) := by
  refine .ite .nil (.flatMap fun k hk => .ite .nil ?_)
  have hnames := hnew.foreignKeysOf table k hk
  exact .append (.ite (writtenFor_keyDrop htable (hnames _ List.mem_cons_self) _) .nil)
    (.ite (.singleton (writtenFor_addForeignKey htable hnames)) .nil)

/-! ## The run -/

/-- The part that a new table is created from has what the new schema has. -/
theorem supplies_partOf (hnew : m.new.Supplies P m.deployment) (table : String) :
    (m.partOf table).Supplies P m.deployment := by
  have hmem : ∀ e ∈ (m.partOf table).entities, e ∈ m.new.entities := by
    intro e he
    simp only [partOf, List.mem_append, Option.mem_toList, Option.map_eq_some_iff, List.mem_map] at he
    rcases he with (⟨t, ht, rfl⟩ | ⟨i, hi, rfl⟩) | ⟨r, hr, rfl⟩
    · exact (m.new.table?_eq_some ht).2
    · rw [m.new.indexesOf_eq] at hi
      exact m.new.mem_declaredIndexes.mp (List.mem_of_mem_filter (Ordered.mem_of_mem_collect hi))
    · rw [m.new.seedsOf_eq] at hr
      exact m.new.mem_declaredSeeds.mp (List.mem_of_mem_filter hr)
  exact ⟨fun e he => hnew.names e (hmem e he), fun t ht => hnew.columns t (hmem _ ht),
    fun r hr => hnew.values r (hmem _ hr)⟩

theorem writtenFor_changed (hold : m.old.Named P.name) (hnew : m.new.Supplies P m.deployment)
    (hdatabases : MapsInto P.name m.deployment.mapping) (hcommon : table ∈ m.common)
    (h : m.tableChanges table = .ok (m.changed table)) :
    Each (Statement.WrittenFor m.dialect P) (m.changed table) := by
  obtain ⟨old, new, htable, hversion⟩ := m.tables_of_common hcommon
  have hnewNames := hnew.names.table hversion
  have hname : P.name table := by
    rw [← (m.new.table?_eq_some hversion).1]
    exact hnewNames _ List.mem_cons_self
  cases hmapped : m.databaseOf table with
  | some database =>
    obtain ⟨columns, -, hchanged⟩ := (m.tableChanges_of_mapped htable hversion hmapped).mp h
    have hdatabase : P.name database := by
      rw [databaseOf, Schema.mappedDatabase, hversion] at hmapped
      exact hdatabases _ _ _ hmapped
    rw [hchanged]
    exact .ite .nil (writtenFor_viewStatements hname hdatabase)
  | none =>
    obtain ⟨columns, hcolumns, hchanged⟩ := (m.tableChanges_of_local htable hversion hmapped).mp h
    have hdefined := hnew.columns new (m.new.table?_eq_some hversion).2
    rw [hchanged]
    exact .append
      (.append (writtenFor_tableColumnChanges (hold.table htable) hnewNames hdefined hcolumns)
        (writtenFor_primaryKeyChanges hnewNames))
      (writtenFor_indexChanges hnew.names hname)

/-- **A migration** brings in nothing but what its schemas and the databases supply. -/
theorem writtenFor_run (hold : m.old.Named P.name) (hnew : m.new.Supplies P m.deployment)
    (hdatabases : MapsInto P.name m.deployment.mapping) (h : m.run.outcome = .ok statements) :
    Each (Statement.WrittenFor m.dialect P) statements := by
  obtain ⟨hadded, hchanged, rfl⟩ := (m.run_eq_ok_iff).mp h
  have hcommonName : ∀ t ∈ m.common, P.name t := fun t ht =>
    hnew.names.tableNames t (m.new.mem_tableNames.mpr ((m.mem_common).mp ht).2)
  have haddedName : ∀ t ∈ m.added, P.name t := fun t ht =>
    hnew.names.tableNames t (m.new.mem_tableNames.mpr ((m.mem_added).mp ht).1)
  have hremovedName : ∀ t ∈ m.removed, P.name t := fun t ht =>
    hold.tableNames t (m.old.mem_tableNames.mpr ((m.mem_removed).mp ht).1)
  refine .append (.append (.append (.append (.append ?_ ?_) ?_) ?_) ?_) ?_
  · exact .flatMap fun t ht => writtenFor_staleDrops hold (hcommonName t ht)
  · exact .ite (.flatMap fun t ht => writtenFor_tableDrops (hremovedName t ht)) .nil
  · exact .flatMap fun t ht =>
      Schema.writtenFor_creation (supplies_partOf hnew t) hdatabases (hadded t ht)
  · exact .flatMap fun t ht => writtenFor_changed hold hnew hdatabases ht (hchanged t ht)
  · exact .flatMap fun t ht => writtenFor_keyCreation hnew.names (haddedName t ht)
  · exact .flatMap fun t ht => writtenFor_keyChanges hnew.names (hcommonName t ht)

end Migration

end SchemaPlan
