import SchemaPlan.Proofs.Migration.Columns

/-!
# The run of a migration, table by table

A run goes through its phases, and through the tables in each phase.  Read for one table alone it
is short: a table of both schemas has its stale drops, its changes and the changes of its keys, a
new table its creation and its keys.

* `Migration.run_eq_ok_iff` says when a run succeeds and what it then consists of.
* `Migration.thoseAbout_common` and `Migration.thoseAbout_added` read a run for one table.
-/
namespace SchemaPlan

namespace Migration

variable (m : Migration) {table : String} {statements : List Statement}

/-! ## Tables -/

theorem mem_common :
    table ∈ m.common ↔ (m.old.table? table).isSome ∧ (m.new.table? table).isSome := by
  rw [common, Schema.commonTableNames, List.mem_filter, Schema.mem_tableNames]

/-- A common table has a version in each schema. -/
theorem tables_of_common (h : table ∈ m.common) :
    ∃ old new, m.old.table? table = some old ∧ m.new.table? table = some new := by
  obtain ⟨hold, hnew⟩ := (m.mem_common).mp h
  obtain ⟨old, hold⟩ := Option.isSome_iff_exists.mp hold
  obtain ⟨new, hnew⟩ := Option.isSome_iff_exists.mp hnew
  exact ⟨old, new, hold, hnew⟩

theorem mem_added :
    table ∈ m.added ↔ (m.new.table? table).isSome ∧ (m.old.table? table).isNone := by
  rw [added, List.mem_filter, Schema.mem_tableNames]

theorem mem_removed :
    table ∈ m.removed ↔ (m.old.table? table).isSome ∧ (m.new.table? table).isNone := by
  rw [removed, List.mem_filter, Schema.mem_tableNames]

theorem nodup_common : m.common.Nodup :=
  m.old.nodup_tableNames.filter _

theorem nodup_added : m.added.Nodup :=
  m.new.nodup_tableNames.filter _

theorem nodup_removed : m.removed.Nodup :=
  m.old.nodup_tableNames.filter _

theorem not_mem_added_of_common (h : table ∈ m.common) : table ∉ m.added := by
  rw [mem_common] at h
  rw [mem_added, Option.isNone_iff_eq_none]
  rintro ⟨-, hnone⟩
  rw [hnone] at h
  exact absurd h.1 (by simp)

theorem not_mem_removed_of_new (h : (m.new.table? table).isSome) : table ∉ m.removed := by
  rw [mem_removed, Option.isNone_iff_eq_none]
  rintro ⟨-, hnone⟩
  rw [hnone] at h
  exact absurd h (by simp)

/-! ## The run -/

/-- The statements that create a new table. -/
def created (table : String) : List Statement :=
  (m.tableCreation table).resultOrNil

/-- The statements that change a table of both schemas. -/
def changed (table : String) : List Statement :=
  (Noted.ofExcept (m.tableChanges table)).resultOrNil

/-- The run succeeds when every new table can be created and every common one changed; it then
consists of its six phases. -/
theorem run_eq_ok_iff :
    m.run.outcome = .ok statements ↔
      (∀ t ∈ m.added, (m.tableCreation t).outcome = .ok (m.created t)) ∧
      (∀ t ∈ m.common, m.tableChanges t = .ok (m.changed t)) ∧
      statements = m.common.flatMap m.staleDrops ++
        (if m.allow.dropTable then m.removed.flatMap m.tableDrops else []) ++
        m.added.flatMap m.created ++ m.common.flatMap m.changed ++
        m.added.flatMap m.keyCreation ++ m.common.flatMap m.keyChanges := by
  have hrun : m.run.outcome = (Noted.gather m.phases).outcome := rfl
  have hdrops : (Noted.gather (if m.allow.dropTable then
      m.removed.map fun t => pure (m.tableDrops t) else [])).outcome =
      .ok (if m.allow.dropTable then m.removed.flatMap m.tableDrops else []) := by
    split_ifs
    · exact Noted.outcome_gather_pure m.tableDrops m.removed
    · rfl
  rw [hrun, phases]
  -- Only the third and the fourth phase can fail; the others are there in any case.
  simp only [Noted.outcome_gather_append, Noted.outcome_gather_pure, Noted.outcome_gather_map,
    hdrops, Noted.outcome_ofExcept]
  constructor
  · rintro ⟨_, _, ⟨_, _, ⟨_, _, ⟨_, _, ⟨_, _, hstale, htables, rfl⟩, ⟨hadded, rfl⟩, rfl⟩,
      ⟨hcommon, rfl⟩, rfl⟩, hkeys, rfl⟩, hchanges, rfl⟩
    cases hstale
    cases htables
    cases hkeys
    cases hchanges
    exact ⟨hadded, hcommon, rfl⟩
  · rintro ⟨hadded, hcommon, rfl⟩
    exact ⟨_, _, ⟨_, _, ⟨_, _, ⟨_, _, ⟨_, _, rfl, rfl, rfl⟩, ⟨hadded, rfl⟩, rfl⟩,
      ⟨hcommon, rfl⟩, rfl⟩, rfl, rfl⟩, rfl, rfl⟩

/-- The text of a migration is that of its run, merged. -/
theorem sql_eq_ok_iff {bound : Int} {texts : List String} :
    (m.sql bound).outcome = .ok texts ↔
      ∃ l, m.run.outcome = .ok l ∧
        texts = merge bound (l.map (Statement.sql m.deployment.target)) := by
  rw [sql, Noted.outcome_bind]
  exact bind_pure_eq_ok_iff _ _ _

/-! ## One table -/

/-- Statements on the indexes and foreign keys of a table. -/
abbrev OnKeys (table : String) (statements : List Statement) : Prop :=
  Each (fun s => s.subject = table ∧ (s.kind = .index ∨ s.kind = .foreignKey)) statements

theorem onKeys_keyDrop (table : String) (dropped : List String) (key : String) :
    OnKeys table (m.keyDrop table dropped key) :=
  .cons ⟨rfl, Or.inr rfl⟩ (.ite (.singleton ⟨rfl, Or.inl rfl⟩) .nil)

theorem onKeys_staleDrops (table : String) : OnKeys table (m.staleDrops table) :=
  .append (.flatMap fun key _ => m.onKeys_keyDrop table [] key) (.map fun _ _ => ⟨rfl, Or.inl rfl⟩)

theorem onKeys_keyCreation (table : String) : OnKeys table (m.keyCreation table) :=
  .ite .nil (.map fun _ _ => ⟨rfl, Or.inr rfl⟩)

theorem onKeys_keyChanges (table : String) : OnKeys table (m.keyChanges table) :=
  .ite .nil (.flatMap fun _ _ => .ite .nil
    (.append (.ite (m.onKeys_keyDrop table _ _) .nil) (.ite (.singleton ⟨rfl, Or.inr rfl⟩) .nil)))

theorem plain_tableDrops (table : String) : Plain table (m.tableDrops table) :=
  .append (.cons ⟨rfl, nofun⟩ (.singleton ⟨rfl, nofun⟩)) (.ite (.singleton ⟨rfl, nofun⟩) .nil)

/-- The things of one kind in the part that a table is created from. -/
theorem filterMap_partOf {α : Type} (kind? : Entity → Option α) :
    (m.partOf table).entities.filterMap kind? =
      ((m.new.table? table).toList.filterMap fun t => kind? (.table t)) ++
        ((m.new.indexesOf table).values.filterMap fun i => kind? (.index i)) ++
        (m.new.seedsOf table).filterMap fun r => kind? (.seed r) := by
  rw [partOf, List.filterMap_append, List.filterMap_append, List.filterMap_map, List.filterMap_map,
    Option.toList_map, List.filterMap_map]
  rfl

theorem declaredTables_partOf : (m.partOf table).declaredTables = (m.new.table? table).toList := by
  rw [Schema.declaredTables, filterMap_partOf]
  simp [Entity.table?]

theorem declaredIndexes_partOf :
    (m.partOf table).declaredIndexes = (m.new.indexesOf table).values := by
  rw [Schema.declaredIndexes, filterMap_partOf]
  simp [Entity.index?]

theorem declaredKeys_partOf : (m.partOf table).declaredKeys = [] := by
  rw [Schema.declaredKeys, filterMap_partOf]
  simp [Entity.foreignKey?]

theorem declaredSeeds_partOf : (m.partOf table).declaredSeeds = m.new.seedsOf table := by
  rw [Schema.declaredSeeds, filterMap_partOf]
  simp [Entity.seed?]

/-- The part that a table is created from has the table. -/
theorem table?_partOf : (m.partOf table).table? table = m.new.table? table := by
  rw [Schema.table?_eq, declaredTables_partOf]
  cases h : m.new.table? table with
  | none => rfl
  | some t => simp [(m.new.table?_eq_some h).1]

/-- A new table is created from entities of its own, none of them a foreign key. -/
theorem mem_partOf {e : Entity} (he : e ∈ (m.partOf table).entities) :
    e.tableName = table ∧ ∀ k, e ≠ .foreignKey k := by
  simp only [partOf, List.mem_append, Option.mem_toList, Option.map_eq_some_iff, List.mem_map] at he
  rcases he with (⟨t, ht, rfl⟩ | ⟨i, hi, rfl⟩) | ⟨r, hr, rfl⟩
  · exact ⟨(m.new.table?_eq_some ht).1, nofun⟩
  · exact ⟨(m.new.isTableMap_indexesOf table).belongs i hi, nofun⟩
  · exact ⟨m.new.table_of_mem_seedsOf hr, nofun⟩

theorem plain_created (h : (m.tableCreation table).outcome = .ok (m.created table)) :
    Plain table (m.created table) := by
  refine (Schema.each_creation h).mono ?_
  rintro s ⟨e, he, hsubject, hkind⟩
  obtain ⟨htable, hkey⟩ := m.mem_partOf he
  refine ⟨hsubject.trans htable, fun hs => ?_⟩
  obtain ⟨k, hk⟩ := hkind hs
  exact hkey k hk

theorem each_indexChanges (table : String) :
    Each (fun s => s.subject = table ∧ s.kind = .index) (m.indexChanges table) := by
  refine .flatMap fun i hi => .append (.ite (.singleton ⟨rfl, rfl⟩) .nil) fun s hs => ?_
  obtain ⟨hsubject, hkind⟩ := subject_of_creation? (Option.mem_toList.mp hs)
  have htable : i.table = table :=
    (m.new.isTableMap_indexesOf table).belongs i (List.mem_of_mem_filter hi)
  exact ⟨hsubject.trans htable, hkind⟩

/-- The changes of a table that stays in the database. -/
theorem tableChanges_of_local {old new : Table} (hold : m.old.table? table = some old)
    (hnew : m.new.table? table = some new) (hlocal : m.databaseOf table = none) :
    m.tableChanges table = .ok statements ↔
      ∃ columns, tableColumnChanges m.dialect old new false m.allow.dropColumn = .ok columns ∧
        statements = columns ++ primaryKeyChanges old new ++ m.indexChanges table := by
  rw [tableChanges, hold, hnew, hlocal]
  exact bind_pure_eq_ok_iff _ _ _

/-- The changes of a table that is a view of a table in another database. -/
theorem tableChanges_of_mapped {old new : Table} {database : String}
    (hold : m.old.table? table = some old) (hnew : m.new.table? table = some new)
    (hmapped : m.databaseOf table = some database) :
    m.tableChanges table = .ok statements ↔
      ∃ columns, tableColumnChanges m.dialect old new true m.allow.dropColumn = .ok columns ∧
        statements = if columns.isEmpty then [] else viewStatements table database := by
  rw [tableChanges, hold, hnew, hmapped]
  exact bind_pure_eq_ok_iff _ _ _

theorem plain_changed (hcommon : table ∈ m.common)
    (h : m.tableChanges table = .ok (m.changed table)) : Plain table (m.changed table) := by
  obtain ⟨old, new, hold, hnew⟩ := m.tables_of_common hcommon
  have hname : new.name = table := (m.new.table?_eq_some hnew).1
  cases hdatabase : m.databaseOf table with
  | none =>
    obtain ⟨columns, hcolumns, heq⟩ := (m.tableChanges_of_local hold hnew hdatabase).mp h
    rw [heq]
    refine .append (.append ?_ ?_) ?_
    · refine (onColumns_tableColumnChanges hcolumns).mono fun s hs => ⟨hs.1.trans hname, ?_⟩
      rcases hs.2 with hkind | hkind <;> rw [hkind] <;> decide
    · refine (each_primaryKeyChanges old new).mono fun s hs => ⟨hs.1.trans hname, ?_⟩
      rw [hs.2]
      decide
    · refine (m.each_indexChanges table).mono fun s hs => ⟨hs.1, ?_⟩
      rw [hs.2]
      decide
  | some database =>
    obtain ⟨columns, -, heq⟩ := (m.tableChanges_of_mapped hold hnew hdatabase).mp h
    rw [heq]
    exact .ite .nil (plain_viewStatements table database)

/-- The statements of a run about a table of the new schema, phase by phase. -/
theorem thoseAbout_run (h : m.run.outcome = .ok statements)
    (hnew : (m.new.table? table).isSome) :
    thoseAbout table statements =
      (if table ∈ m.common then m.staleDrops table else []) ++
        (if table ∈ m.added then m.created table else []) ++
        (if table ∈ m.common then m.changed table else []) ++
        (if table ∈ m.added then m.keyCreation table else []) ++
        (if table ∈ m.common then m.keyChanges table else []) := by
  obtain ⟨hadded, hcommon, rfl⟩ := (m.run_eq_ok_iff).mp h
  -- The tables that are dropped are not tables of the new schema.
  have hdrops : thoseAbout table
      (if m.allow.dropTable then m.removed.flatMap m.tableDrops else []) = [] := by
    split_ifs
    · rw [thoseAbout_flatMap m.nodup_removed fun t _ => (m.plain_tableDrops t).mono fun _ h => h.1,
        if_neg (m.not_mem_removed_of_new hnew)]
    · rfl
  simp only [thoseAbout_append, hdrops, List.append_nil,
    thoseAbout_flatMap m.nodup_common fun t _ => (m.onKeys_staleDrops t).mono fun _ h => h.1,
    thoseAbout_flatMap m.nodup_added fun t ht =>
      (m.plain_created (hadded t ht)).mono fun _ h => h.1,
    thoseAbout_flatMap m.nodup_common fun t ht =>
      (m.plain_changed ht (hcommon t ht)).mono fun _ h => h.1,
    thoseAbout_flatMap m.nodup_added fun t _ => (m.onKeys_keyCreation t).mono fun _ h => h.1,
    thoseAbout_flatMap m.nodup_common fun t _ => (m.onKeys_keyChanges t).mono fun _ h => h.1]

/-- **A common table** has its stale drops, its changes and the changes of its keys. -/
theorem thoseAbout_common (h : m.run.outcome = .ok statements) (hcommon : table ∈ m.common) :
    m.tableChanges table = .ok (m.changed table) ∧
      thoseAbout table statements =
        m.staleDrops table ++ m.changed table ++ m.keyChanges table := by
  refine ⟨((m.run_eq_ok_iff).mp h).2.1 table hcommon, ?_⟩
  rw [m.thoseAbout_run h ((m.mem_common).mp hcommon).2]
  simp only [if_pos hcommon, if_neg (m.not_mem_added_of_common hcommon), List.append_nil]

/-- On a common table that stays in the database nothing but its stale drops, the changes of its
indexes and those of its keys touches its indexes and keys. -/
theorem thoseAbout_local (h : m.run.outcome = .ok statements) (hcommon : table ∈ m.common)
    (hlocal : m.databaseOf table = none) :
    ∃ shape, Each (fun s => s.kind ≠ .index ∧ s.kind ≠ .foreignKey) shape ∧
      thoseAbout table statements =
        m.staleDrops table ++ (shape ++ m.indexChanges table) ++ m.keyChanges table := by
  obtain ⟨hchanged, heq⟩ := m.thoseAbout_common h hcommon
  obtain ⟨old, new, hold, hnew⟩ := m.tables_of_common hcommon
  obtain ⟨columns, hcolumns, hparts⟩ := (m.tableChanges_of_local hold hnew hlocal).mp hchanged
  refine ⟨columns ++ primaryKeyChanges old new, .append ?_ ?_, by rw [heq, hparts]⟩
  · refine (onColumns_tableColumnChanges hcolumns).mono fun s hs => ?_
    rcases hs.2 with hkind | hkind <;> rw [hkind] <;> decide
  · refine (each_primaryKeyChanges old new).mono fun s hs => ?_
    rw [hs.2]
    decide

/-- **A new table** has its creation and its keys. -/
theorem thoseAbout_added (h : m.run.outcome = .ok statements) (hadded : table ∈ m.added) :
    (m.tableCreation table).outcome = .ok (m.created table) ∧
      thoseAbout table statements = m.created table ++ m.keyCreation table := by
  have hcommon : table ∉ m.common := fun hc => m.not_mem_added_of_common hc hadded
  refine ⟨((m.run_eq_ok_iff).mp h).1 table hadded, ?_⟩
  rw [m.thoseAbout_run h ((m.mem_added).mp hadded).1]
  simp only [if_pos hadded, if_neg hcommon, List.nil_append, List.append_nil]

end Migration

end SchemaPlan
