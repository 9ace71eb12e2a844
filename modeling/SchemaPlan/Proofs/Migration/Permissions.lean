import SchemaPlan.Proofs.Migration.MappedTables

/-!
# What a run drops

What a run takes away from a database: columns, tables and views, foreign keys and indexes.  The
sections say exactly when a run drops one of them, the last one what of that is left without
permission to drop.

* `Migration.mem_run` says which part of a run a statement is in.
* `Migration.run_drops_column_iff`, `Migration.run_drops_table_iff` and
  `Migration.run_drops_view_iff` say which columns, tables and views a run drops.
* `Migration.run_drops_key_iff` and `Migration.run_drops_index_iff` say which foreign keys and
  indexes a run drops.
-/
namespace SchemaPlan

/-- A map has something else under a name than another one. -/
def Ordered.Redeclares {α : Type} (new old : Ordered α) (name : String) : Prop :=
  ∃ a b, old.get? name = some a ∧ new.get? name = some b ∧ a ≠ b

/-! ## Creating a schema -/

/-- A statement that drops a part of a table. -/
def Statement.DropsPart : Statement → Prop
  | alter _ (.dropColumn _) => True
  | alter _ (.dropForeignKey _) => True
  | dropIndex _ _ => True
  | _ => False

/-- A statement that changes a table that is there, or drops a part of it. -/
def Statement.ChangesPart : Statement → Prop
  | alter _ (.addForeignKey _) => False
  | alter _ _ => True
  | dropIndex _ _ => True
  | _ => False

theorem Statement.DropsPart.changesPart {s : Statement} (h : s.DropsPart) : s.ChangesPart := by
  unfold Statement.DropsPart at h
  split at h
  · trivial
  · trivial
  · trivial
  · cases h

theorem Index.not_changesPart_creation {i : Index} {d : Dialect} {s : Statement}
    (h : i.creation? d = some s) : ¬ s.ChangesPart := by
  obtain ⟨-, rfl⟩ := Index.creation?_eq_some_iff.mp h
  exact id

theorem not_changesPart_viewStatements (table database : String) :
    Each (fun s => ¬ s.ChangesPart) (viewStatements table database) :=
  .cons id (.singleton id)

theorem Table.not_changesPart_creation {t : Table} {indexes : List Index} {d : Dialect}
    {l : List Statement} (h : t.creation indexes d = .ok l) :
    Each (fun s => ¬ s.ChangesPart) l := by
  unfold Table.creation at h
  rw [bind_eq_ok_iff] at h
  obtain ⟨columns, -, h⟩ := h
  cases h
  have hclearing : Each (fun s => ¬ s.ChangesPart) (t.clearing d) :=
    .append (.cons id (.singleton id)) (.ite (.cons id (.singleton id)) .nil)
  refine .append hclearing (.cons id ?_)
  cases d with
  | mysql => exact .nil
  | pgsql =>
    intro s hs
    obtain ⟨i, -, hcreated⟩ := List.mem_filterMap.mp hs
    exact Index.not_changesPart_creation hcreated

/-- A schema is created without changing a table that is there. -/
theorem Schema.not_changesPart_creation {s : Schema} {d : Deployment} {l : List Statement}
    (h : (s.creation d).outcome = .ok l) : Each (fun x => ¬ x.ChangesPart) l := by
  obtain ⟨htables, hkeys, hseeds, rfl⟩ := creation_eq_ok_iff.mp h
  refine .append (.append (.flatMap fun e he => ?_) (.flatMap fun e he => ?_))
    (.flatMap fun e he => ?_)
  · rcases tableStatements_cases (htables e he) with ⟨t, database, -, -, heq⟩ |
      ⟨t, -, -, hcreation⟩ | ⟨i, -, -, heq⟩ | ⟨-, heq⟩
    · rw [heq]
      exact not_changesPart_viewStatements t.name database
    · exact Table.not_changesPart_creation hcreation
    · rw [heq]
      intro x hx
      exact Index.not_changesPart_creation (Option.mem_toList.mp hx)
    · rw [heq]
      exact .nil
  · rcases keyStatements_cases (hkeys e he) with ⟨k, -, -, heq⟩ | heq
    · rw [heq]
      exact .singleton id
    · rw [heq]
      exact .nil
  · rcases seedStatements_cases (hseeds e he) with ⟨r, contents, -, -, -, heq⟩ | heq
    · rw [heq]
      exact .ite (.singleton id) (.cons id (.ite (.singleton id) .nil))
    · rw [heq]
      exact .nil

/-- A schema is created without dropping a part of a table. -/
theorem Schema.not_dropsPart_creation {s : Schema} {d : Deployment} {l : List Statement}
    (h : (s.creation d).outcome = .ok l) : Each (fun x => ¬ x.DropsPart) l :=
  (Schema.not_changesPart_creation h).mono fun _ hs hdrops => hs hdrops.changesPart

namespace Migration

variable (m : Migration) {table name : String} {statements : List Statement}

/-! ## The parts of a run -/

/-- A statement of a run is in the part that one of the phases has for its table. -/
theorem mem_run (h : m.run.outcome = .ok statements) {s : Statement} :
    s ∈ statements ↔
      (s.subject ∈ m.common ∧ s ∈ m.staleDrops s.subject) ∨
      (m.allow.dropTable = true ∧ s.subject ∈ m.removed ∧ s ∈ m.tableDrops s.subject) ∨
      (s.subject ∈ m.added ∧ s ∈ m.created s.subject) ∨
      (s.subject ∈ m.common ∧ s ∈ m.changed s.subject) ∨
      (s.subject ∈ m.added ∧ s ∈ m.keyCreation s.subject) ∨
      (s.subject ∈ m.common ∧ s ∈ m.keyChanges s.subject) := by
  obtain ⟨hadded, hcommon, rfl⟩ := (m.run_eq_ok_iff).mp h
  simp only [List.mem_append, List.mem_ite_nil_right, or_assoc,
    mem_flatMap_of_about fun t _ => (m.onKeys_staleDrops t).mono fun _ h => h.1,
    mem_flatMap_of_about fun t _ => (m.plain_tableDrops t).mono fun _ h => h.1,
    mem_flatMap_of_about fun t ht => (m.plain_created (hadded t ht)).mono fun _ h => h.1,
    mem_flatMap_of_about fun t ht => (m.plain_changed ht (hcommon t ht)).mono fun _ h => h.1,
    mem_flatMap_of_about fun t _ => (m.onKeys_keyCreation t).mono fun _ h => h.1,
    mem_flatMap_of_about fun t _ => (m.onKeys_keyChanges t).mono fun _ h => h.1]

/-- Statements on keys and indexes alone hold no statement of another kind. -/
theorem not_mem_of_onKeys {l : List Statement} (h : OnKeys table l) {s : Statement}
    (hindex : s.kind ≠ .index) (hkey : s.kind ≠ .foreignKey) : s ∉ l := by
  intro hs
  rcases (h s hs).2 with hkind | hkind
  · exact hindex hkind
  · exact hkey hkind

/-- What is neither an index nor a foreign key is touched by the phases in the middle alone. -/
theorem mem_run_of_kind (h : m.run.outcome = .ok statements) {s : Statement}
    (hindex : s.kind ≠ .index) (hkey : s.kind ≠ .foreignKey) :
    s ∈ statements ↔
      (m.allow.dropTable = true ∧ s.subject ∈ m.removed ∧ s ∈ m.tableDrops s.subject) ∨
      (s.subject ∈ m.added ∧ s ∈ m.created s.subject) ∨
      (s.subject ∈ m.common ∧ s ∈ m.changed s.subject) := by
  have hstale : s ∉ m.staleDrops s.subject :=
    not_mem_of_onKeys (m.onKeys_staleDrops s.subject) hindex hkey
  have hcreation : s ∉ m.keyCreation s.subject :=
    not_mem_of_onKeys (m.onKeys_keyCreation s.subject) hindex hkey
  have hchanges : s ∉ m.keyChanges s.subject :=
    not_mem_of_onKeys (m.onKeys_keyChanges s.subject) hindex hkey
  rw [m.mem_run h]
  simp only [hstale, hcreation, hchanges, and_false, false_or, or_false]

/-- A part of a table is dropped on a common table alone. -/
theorem mem_run_of_dropsPart (h : m.run.outcome = .ok statements) {s : Statement}
    (hs : s.DropsPart) :
    s ∈ statements ↔ s.subject ∈ m.common ∧
      (s ∈ m.staleDrops s.subject ∨ s ∈ m.changed s.subject ∨ s ∈ m.keyChanges s.subject) := by
  obtain ⟨hadded, -, -⟩ := (m.run_eq_ok_iff).mp h
  have htable : Each (fun s => ¬ s.DropsPart) (m.tableDrops s.subject) :=
    .append (.cons id (.singleton id)) (.ite (.singleton id) .nil)
  have hcreation : Each (fun s => ¬ s.DropsPart) (m.keyCreation s.subject) :=
    .ite .nil (.map fun _ _ => id)
  have hcreated : ¬ (s.subject ∈ m.added ∧ s ∈ m.created s.subject) := fun hmem =>
    Schema.not_dropsPart_creation (hadded s.subject hmem.1) s hmem.2 hs
  have hnot : s ∉ m.tableDrops s.subject := fun hmem => htable s hmem hs
  have hnew : s ∉ m.keyCreation s.subject := fun hmem => hcreation s hmem hs
  rw [m.mem_run h]
  simp only [hcreated, hnot, hnew, and_false, false_or, ← and_or_left]

/-- The keys of a table in another database are left alone. -/
theorem keyChanges_of_mapped {database : String} (hmapped : m.databaseOf table = some database) :
    m.keyChanges table = [] := by
  rw [keyChanges, hmapped]
  rfl

/-- On a table that stays in the database the changes of its columns, its primary key and its
indexes follow each other. -/
theorem changed_of_local (hcommon : table ∈ m.common)
    (hchanged : m.tableChanges table = .ok (m.changed table)) (hlocal : m.databaseOf table = none) :
    ∃ old new columns, m.old.table? table = some old ∧ m.new.table? table = some new ∧
      new.name = table ∧
      tableColumnChanges m.dialect old new false m.allow.dropColumn = .ok columns ∧
      m.changed table = columns ++ primaryKeyChanges old new ++ m.indexChanges table := by
  obtain ⟨old, new, hold, hnew⟩ := m.tables_of_common hcommon
  obtain ⟨columns, hcolumns, heq⟩ := (m.tableChanges_of_local hold hnew hlocal).mp hchanged
  exact ⟨old, new, columns, hold, hnew, (m.new.table?_eq_some hnew).1, hcolumns, heq⟩

/-- A table in another database is left alone or made a view anew. -/
theorem changed_of_mapped {database : String} (hcommon : table ∈ m.common)
    (hchanged : m.tableChanges table = .ok (m.changed table))
    (hmapped : m.databaseOf table = some database) :
    m.changed table = [] ∨ m.changed table = viewStatements table database := by
  obtain ⟨old, new, hold, hnew⟩ := m.tables_of_common hcommon
  obtain ⟨columns, -, heq⟩ := (m.tableChanges_of_mapped hold hnew hmapped).mp hchanged
  rw [heq]
  split_ifs
  · exact Or.inl rfl
  · exact Or.inr rfl

/-! ## Columns -/

/-- A table that stays in the database loses a column that its old version has and its new one has
not. -/
def LosesColumn (table column : String) : Prop :=
  m.databaseOf table = none ∧ ∃ old new, m.old.table? table = some old ∧
    m.new.table? table = some new ∧ (old.column? column).isSome ∧ new.column? column = none

theorem dropColumn_mem_changed (hcommon : table ∈ m.common)
    (hchanged : m.tableChanges table = .ok (m.changed table)) :
    .alter table (.dropColumn name) ∈ m.changed table ↔
      m.allow.dropColumn = true ∧ m.LosesColumn table name := by
  cases hdatabase : m.databaseOf table with
  | none =>
    obtain ⟨old, new, columns, hold, hnew, hname, hcolumns, heq⟩ :=
      m.changed_of_local hcommon hchanged hdatabase
    have hkey : .alter table (.dropColumn name) ∉ primaryKeyChanges old new := fun hmem =>
      absurd (each_primaryKeyChanges old new _ hmem).2 (by simp [Statement.kind, Change.kind])
    have hindex : .alter table (.dropColumn name) ∉ m.indexChanges table := fun hmem =>
      absurd (m.each_indexChanges table _ hmem).2 (by simp [Statement.kind, Change.kind])
    have hdrop := dropColumn_mem_tableColumnChanges hcolumns name
    rw [hname] at hdrop
    rw [heq, List.mem_append, List.mem_append, or_iff_left hindex, or_iff_left hkey, hdrop]
    simp only [LosesColumn, hdatabase, hold, hnew, true_and, Option.some.injEq, exists_and_left,
      exists_eq_left']
  | some database =>
    refine iff_of_false ?_ fun h => by simpa [hdatabase] using h.2.1
    rcases m.changed_of_mapped hcommon hchanged hdatabase with heq | heq
    · rw [heq]
      exact List.not_mem_nil
    · rw [heq]
      exact fun hmem => not_changesPart_viewStatements table database _ hmem trivial

/-- **Columns.**  A run drops the columns that tables in the database lose, if that is allowed. -/
theorem run_drops_column_iff (h : m.run.outcome = .ok statements) :
    .alter table (.dropColumn name) ∈ statements ↔
      m.allow.dropColumn = true ∧ m.LosesColumn table name := by
  obtain ⟨-, hcommon, -⟩ := (m.run_eq_ok_iff).mp h
  have hstale : .alter table (.dropColumn name) ∉ m.staleDrops table :=
    not_mem_of_onKeys (m.onKeys_staleDrops table) nofun nofun
  have hkeys : .alter table (.dropColumn name) ∉ m.keyChanges table :=
    not_mem_of_onKeys (m.onKeys_keyChanges table) nofun nofun
  rw [m.mem_run_of_dropsPart (s := .alter table (.dropColumn name)) h trivial]
  simp only [Statement.subject, hstale, hkeys, false_or, or_false]
  constructor
  · rintro ⟨ht, hmem⟩
    exact (m.dropColumn_mem_changed ht (hcommon table ht)).mp hmem
  · rintro ⟨hallow, hloses⟩
    obtain ⟨-, old, new, hold, hnew, -⟩ := id hloses
    have ht : table ∈ m.common := by
      rw [mem_common, hold, hnew]
      exact ⟨rfl, rfl⟩
    exact ⟨ht, (m.dropColumn_mem_changed ht (hcommon table ht)).mpr ⟨hallow, hloses⟩⟩

/-! ## Tables and views -/

/-- A common table in another database has its view made anew. -/
def RebuildsView (table : String) : Prop :=
  table ∈ m.common ∧ ∃ database, m.databaseOf table = some database ∧
    m.changed table = viewStatements table database

/-- The statements that make a table or a view of a new table belong to its creation. -/
theorem mem_created_of_table {t : Table} (ht : m.new.table? table = some t)
    (h : (m.tableCreation table).outcome = .ok (m.created table)) :
    ∃ l, ((m.partOf table).tableStatements m.deployment (.table t)).outcome = .ok l ∧
      ∀ s ∈ l, s ∈ m.created table := by
  have he : Entity.table t ∈ (m.partOf table).entities := by
    simp [partOf, ht]
  obtain ⟨htables, -, -, heq⟩ := Schema.creation_eq_ok_iff.mp h
  refine ⟨_, htables _ he, fun s hs => ?_⟩
  rw [heq]
  exact List.mem_append_left _ (List.mem_append_left _ (List.mem_flatMap.mpr ⟨_, he, hs⟩))

/-- What stands in the way of a new table is dropped, a view only if the table is local. -/
theorem drops_mem_created (hadded : table ∈ m.added)
    (h : (m.tableCreation table).outcome = .ok (m.created table)) :
    .dropTable table ∈ m.created table ∧
      (.dropView table ∈ m.created table ↔ m.databaseOf table = none) := by
  obtain ⟨t, ht⟩ := Option.isSome_iff_exists.mp ((m.mem_added).mp hadded).1
  obtain ⟨rfl, -⟩ := m.new.table?_eq_some ht
  have hdatabase : m.databaseOf t.name =
      SchemaPlan.mappedDatabase m.deployment.mapping t.group t.name := by
    rw [databaseOf, Schema.mappedDatabase, ht, Option.bind_some]
  obtain ⟨l, hl, hsub⟩ := m.mem_created_of_table ht h
  rcases Schema.tableStatements_cases hl with ⟨u, database, hu, hmapped, rfl⟩ |
    ⟨u, hu, hlocal, hcreation⟩ | ⟨i, hi, -⟩ | ⟨hnot, -⟩
  · cases hu
    rw [← hdatabase] at hmapped
    refine ⟨hsub _ List.mem_cons_self, iff_of_false ?_ (by simp [hmapped])⟩
    -- Every statement of the creation makes the view.
    intro hmem
    rcases m.each_makesView_created hmapped h _ hmem with hview | ⟨_, hview⟩
    · cases hview
    · cases hview
  · cases hu
    rw [← hdatabase] at hlocal
    have hclearing : ∀ s ∈ t.clearing m.dialect, s ∈ m.created t.name := by
      intro s hs
      unfold Table.creation at hcreation
      rw [bind_eq_ok_iff] at hcreation
      obtain ⟨columns, -, hcreation⟩ := hcreation
      cases hcreation
      exact hsub s (List.mem_append_left _ hs)
    refine ⟨hclearing _ ?_, iff_of_true (hclearing _ ?_) hlocal⟩
    · simp [Table.clearing]
    · simp [Table.clearing]
  · cases hi
  · exact absurd rfl (hnot t)

/-- The changes of a table that stays in the database are made inside of the table. -/
theorem each_changed_of_local (hcommon : table ∈ m.common)
    (hchanged : m.tableChanges table = .ok (m.changed table)) (hlocal : m.databaseOf table = none) :
    Each (fun s => s.kind ≠ .table ∧ s.kind ≠ .view) (m.changed table) := by
  obtain ⟨old, new, columns, -, -, -, hcolumns, heq⟩ := m.changed_of_local hcommon hchanged hlocal
  rw [heq]
  refine .append (.append ?_ ?_) ?_
  · refine (onColumns_tableColumnChanges hcolumns).mono fun s hs => ?_
    rcases hs.2 with hkind | hkind <;> rw [hkind] <;> decide
  · refine (each_primaryKeyChanges old new).mono fun s hs => ?_
    rw [hs.2]
    decide
  · refine (m.each_indexChanges table).mono fun s hs => ?_
    rw [hs.2]
    decide

/-- The changes of a common table drop it only to make its view anew. -/
theorem dropTable_mem_changed (hcommon : table ∈ m.common)
    (hchanged : m.tableChanges table = .ok (m.changed table)) :
    .dropTable table ∈ m.changed table ↔ m.RebuildsView table := by
  cases hdatabase : m.databaseOf table with
  | none =>
    refine iff_of_false ?_ (by simp [RebuildsView, hdatabase])
    exact fun hmem => (m.each_changed_of_local hcommon hchanged hdatabase _ hmem).1 rfl
  | some database =>
    simp only [RebuildsView, hcommon, hdatabase, true_and, Option.some.injEq, exists_eq_left']
    rcases m.changed_of_mapped hcommon hchanged hdatabase with heq | heq
    · rw [heq]
      exact iff_of_false List.not_mem_nil nofun
    · rw [heq]
      exact iff_of_true List.mem_cons_self rfl

/-- The changes of a common table drop no view. -/
theorem dropView_not_mem_changed (hcommon : table ∈ m.common)
    (hchanged : m.tableChanges table = .ok (m.changed table)) :
    .dropView table ∉ m.changed table := by
  cases hdatabase : m.databaseOf table with
  | none =>
    exact fun hmem => (m.each_changed_of_local hcommon hchanged hdatabase _ hmem).2 rfl
  | some database =>
    intro hmem
    rcases m.each_makesView_changed hcommon hdatabase hchanged _ hmem with hview | ⟨_, hview⟩
    · cases hview
    · cases hview

/-- **Tables.**  A run drops the removed tables, if that is allowed, and what stands in the way of
new tables and of views that are made anew. -/
theorem run_drops_table_iff (h : m.run.outcome = .ok statements) :
    .dropTable table ∈ statements ↔
      (m.allow.dropTable = true ∧ table ∈ m.removed) ∨ table ∈ m.added ∨ m.RebuildsView table := by
  obtain ⟨hadded, hcommon, -⟩ := (m.run_eq_ok_iff).mp h
  have hdrops : .dropTable table ∈ m.tableDrops table := List.mem_cons_self
  have hcreated : table ∈ m.added ∧ .dropTable table ∈ m.created table ↔ table ∈ m.added :=
    and_iff_left_of_imp fun ht => (m.drops_mem_created ht (hadded table ht)).1
  have hchanged : table ∈ m.common ∧ .dropTable table ∈ m.changed table ↔ m.RebuildsView table := by
    constructor
    · rintro ⟨ht, hmem⟩
      exact (m.dropTable_mem_changed ht (hcommon table ht)).mp hmem
    · intro hview
      exact ⟨hview.1, (m.dropTable_mem_changed hview.1 (hcommon table hview.1)).mpr hview⟩
  rw [m.mem_run_of_kind (s := .dropTable table) h nofun nofun]
  simp only [Statement.subject, hdrops, hcreated, hchanged, and_true]

/-- **Views.**  A run drops the views of removed tables, if that is allowed, and those that stand in
the way of new tables in the database. -/
theorem run_drops_view_iff (h : m.run.outcome = .ok statements) :
    .dropView table ∈ statements ↔
      (m.allow.dropTable = true ∧ table ∈ m.removed) ∨
        (table ∈ m.added ∧ m.databaseOf table = none) := by
  obtain ⟨hadded, hcommon, -⟩ := (m.run_eq_ok_iff).mp h
  have hdrops : .dropView table ∈ m.tableDrops table :=
    List.mem_cons_of_mem _ List.mem_cons_self
  have hcreated : table ∈ m.added ∧ .dropView table ∈ m.created table ↔
      table ∈ m.added ∧ m.databaseOf table = none :=
    and_congr_right fun ht => (m.drops_mem_created ht (hadded table ht)).2
  have hchanged : ¬ (table ∈ m.common ∧ .dropView table ∈ m.changed table) :=
    fun hmem => m.dropView_not_mem_changed hmem.1 (hcommon table hmem.1) hmem.2
  rw [m.mem_run_of_kind (s := .dropView table) h nofun nofun]
  simp only [Statement.subject, hdrops, hcreated, hchanged, and_true, or_false]

/-! ## Foreign keys and indexes -/

/-- **Foreign keys.**  A run drops a stale key of a common table in the first phase if that is
allowed, and else in the last one, but only to make room for another key of a local table. -/
theorem run_drops_key_iff (h : m.run.outcome = .ok statements) :
    .alter table (.dropForeignKey name) ∈ statements ↔
      table ∈ m.common ∧ name ∈ m.staleKeys table ∧
        (m.allow.dropIndex = true ∨
          (m.databaseOf table = none ∧ (m.new.foreignKeysOf table).has name = true)) := by
  obtain ⟨-, hcommon, -⟩ := (m.run_eq_ok_iff).mp h
  rw [m.mem_run_of_dropsPart (s := .alter table (.dropForeignKey name)) h trivial]
  refine and_congr_right fun (ht : table ∈ m.common) => ?_
  have hchanged : .alter table (.dropForeignKey name) ∉ m.changed table :=
    fun hmem => (m.plain_changed ht (hcommon table ht) _ hmem).2 rfl
  simp only [Statement.subject, hchanged, dropKey_mem_staleDrops, mem_earlyKeys, false_or]
  cases hdatabase : m.databaseOf table with
  | none =>
    rw [m.dropKey_mem_keyChanges hdatabase, mem_earlyKeys]
    by_cases hallow : m.allow.dropIndex = true
    · simp only [hallow, true_and, true_or, and_true]
      exact or_iff_left_of_imp fun hlast => hlast.1
    · simp only [hallow, Bool.false_eq_true, false_and, false_or, not_false_eq_true, and_true,
        true_and]
  | some database =>
    rw [m.keyChanges_of_mapped hdatabase]
    simp only [List.not_mem_nil, or_false, reduceCtorEq, false_and, and_comm]

/-- Where a table in the database is changed, indexes are dropped only where they are changed. -/
theorem dropIndex_mem_changed (hcommon : table ∈ m.common)
    (hchanged : m.tableChanges table = .ok (m.changed table)) (hlocal : m.databaseOf table = none) :
    .dropIndex table name ∈ m.changed table ↔ .dropIndex table name ∈ m.indexChanges table := by
  obtain ⟨old, new, columns, -, -, -, hcolumns, heq⟩ := m.changed_of_local hcommon hchanged hlocal
  have hcolumn : .dropIndex table name ∉ columns := fun hmem =>
    absurd (onColumns_tableColumnChanges hcolumns _ hmem).2 (by simp [Statement.kind])
  have hkey : .dropIndex table name ∉ primaryKeyChanges old new := fun hmem =>
    absurd (each_primaryKeyChanges old new _ hmem).2 (by simp [Statement.kind])
  rw [heq, List.mem_append, List.mem_append, or_iff_right (not_or_intro hcolumn hkey)]

/-- **Indexes.**  A run drops an index of a common table in the first phase, where it changes the
indexes, or along with a key of its name. -/
theorem run_drops_index_iff (h : m.run.outcome = .ok statements) :
    .dropIndex table name ∈ statements ↔
      table ∈ m.common ∧ (name ∈ m.droppedEarly table ∨
        (m.databaseOf table = none ∧ (.dropIndex table name ∈ m.indexChanges table ∨
          .dropIndex table name ∈ m.keyChanges table))) := by
  obtain ⟨-, hcommon, -⟩ := (m.run_eq_ok_iff).mp h
  rw [m.mem_run_of_dropsPart (s := .dropIndex table name) h trivial]
  refine and_congr_right fun (ht : table ∈ m.common) => ?_
  simp only [Statement.subject, dropIndex_mem_staleDrops]
  refine or_congr_right ?_
  cases hdatabase : m.databaseOf table with
  | none =>
    rw [m.dropIndex_mem_changed ht (hcommon table ht) hdatabase]
    simp only [true_and]
  | some database =>
    have hview : .dropIndex table name ∉ m.changed table := by
      intro hmem
      have hkind := Statement.kind_of_makesView
        (m.each_makesView_changed ht hdatabase (hcommon table ht) _ hmem)
      exact absurd hkind (by simp [Statement.kind])
    rw [m.keyChanges_of_mapped hdatabase]
    simp only [hview, List.not_mem_nil, or_false, reduceCtorEq, false_and]

/-! ## Without permission -/

/-- Without permission a stale key is dropped only when the new schema has another one. -/
theorem redeclares_of_staleKey (hstale : name ∈ m.staleKeys table)
    (hnew : (m.new.foreignKeysOf table).has name = true) :
    (m.new.foreignKeysOf table).Redeclares (m.old.foreignKeysOf table) name := by
  obtain ⟨old, hold, hdiffers⟩ := (m.mem_staleKeys).mp hstale
  obtain ⟨new, hnew⟩ := (Ordered.has_iff_get?_eq_some _ _).mp hnew
  refine ⟨old, new, hold, hnew, ?_⟩
  rintro rfl
  exact hdiffers hnew

/-- Where indexes are changed an index is dropped only when the new schema has another one. -/
theorem redeclares_of_indexChange (h : .dropIndex table name ∈ m.indexChanges table) :
    (m.new.indexesOf table).Redeclares (m.old.indexesOf table) name := by
  obtain ⟨new, hchanged, rfl, hredropped⟩ := (m.dropIndex_mem_indexChanges).mp h
  obtain ⟨hnew, hdiffers⟩ := (m.mem_changedIndexes).mp hchanged
  obtain ⟨old, hold⟩ :=
    (Ordered.has_iff_get?_eq_some _ _).mp (Bool.and_eq_true_iff.mp hredropped).1
  refine ⟨old, new, hold, (m.new.isTableMap_indexesOf table).keyed.get?_name hnew, ?_⟩
  rintro rfl
  exact hdiffers hold

/-- Without permission nothing is dropped in the first phase. -/
theorem droppedEarly_of_not_allowed (hallow : m.allow.dropIndex = false) :
    m.droppedEarly table = [] := by
  simp [droppedEarly, backingIndexes, earlyKeys, earlyIndexes, hallow]

/-- **Nothing is lost without permission.**  Without it a run drops no column; a table or a view
only if the old schema has no such table or it lives in another database; a foreign key only if the
new schema has another one of its name; an index only if the new schema has another one of its
name, or along with such a key on the dialect that backs keys with indexes. -/
theorem losses_without_permission (h : m.run.outcome = .ok statements) :
    (m.allow.dropColumn = false → ∀ table column,
      .alter table (.dropColumn column) ∉ statements) ∧
    (m.allow.dropTable = false → ∀ table,
      .dropTable table ∈ statements ∨ .dropView table ∈ statements →
        m.old.table? table = none ∨ (m.databaseOf table).isSome) ∧
    (m.allow.dropIndex = false →
      (∀ table key, .alter table (.dropForeignKey key) ∈ statements →
        (m.new.foreignKeysOf table).Redeclares (m.old.foreignKeysOf table) key) ∧
      ∀ table index, .dropIndex table index ∈ statements →
        (m.new.indexesOf table).Redeclares (m.old.indexesOf table) index ∨
        (m.dialect = .mysql ∧ .alter table (.dropForeignKey index) ∈ statements)) := by
  refine ⟨fun hallow table column hmem => ?_, fun hallow table hmem => ?_, fun hallow =>
    ⟨fun table key hmem => ?_, fun table index hmem => ?_⟩⟩
  · rw [m.run_drops_column_iff h, hallow] at hmem
    exact absurd hmem.1 Bool.false_ne_true
  · rw [m.run_drops_table_iff h, m.run_drops_view_iff h, hallow] at hmem
    simp only [Bool.false_eq_true, false_and, false_or] at hmem
    rcases hmem with (hadded | ⟨-, database, hdatabase, -⟩) | ⟨hadded, -⟩
    · exact Or.inl (Option.isNone_iff_eq_none.mp ((m.mem_added).mp hadded).2)
    · right
      rw [hdatabase]
      rfl
    · exact Or.inl (Option.isNone_iff_eq_none.mp ((m.mem_added).mp hadded).2)
  · rw [m.run_drops_key_iff h, hallow] at hmem
    obtain ⟨-, hstale, hreason⟩ := hmem
    obtain ⟨-, hnew⟩ := hreason.resolve_left Bool.false_ne_true
    exact m.redeclares_of_staleKey hstale hnew
  · have hdrop := (m.run_drops_index_iff h).mp hmem
    rw [m.droppedEarly_of_not_allowed hallow] at hdrop
    obtain ⟨hcommon, hdrop⟩ := hdrop
    obtain ⟨hlocal, hchange | hkey⟩ := hdrop.resolve_left List.not_mem_nil
    · exact Or.inl (m.redeclares_of_indexChange hchange)
    · -- The index goes with a key that the last phase drops.
      obtain ⟨hkey, hbacking, -⟩ := (m.dropIndex_mem_keyChanges hlocal).mp hkey
      refine Or.inr ⟨beq_iff_eq.mp (Bool.and_eq_true_iff.mp hbacking).1, ?_⟩
      have hdropsPart : (Statement.alter table (.dropForeignKey index)).DropsPart := trivial
      exact (m.mem_run_of_dropsPart h hdropsPart).mpr ⟨hcommon, Or.inr (Or.inr hkey)⟩

/-! ## A change without permission -/

/-- A column of a table, an integer. -/
def integerColumn (name : String) : Column :=
  ⟨name, .base .integer, 0, 0, true, none, none, false, false, none⟩

/-- A table loses a column, changes an index and a foreign key, another one becomes a view, a third
one is gone and a fourth one is new; nothing may be dropped. -/
def cautiousChange : Migration where
  old := ⟨[.table ⟨"t", [integerColumn "a", integerColumn "b"], none, none⟩,
    .index ⟨"k", "t", ["a"], false, false⟩, .index ⟨"j", "t", ["b"], false, false⟩,
    .foreignKey ⟨"k", "t", "n", [⟨"a", "id"⟩]⟩, .table ⟨"v", [integerColumn "c"], none, none⟩,
    .table ⟨"gone", [], none, none⟩]⟩
  new := ⟨[.table ⟨"t", [integerColumn "a"], none, none⟩,
    .index ⟨"j", "t", ["a"], false, false⟩, .foreignKey ⟨"k", "t", "n", [⟨"a", "key"⟩]⟩,
    .table ⟨"v", [integerColumn "d"], none, some "g"⟩, .table ⟨"n", [], none, none⟩]⟩
  deployment := ⟨⟨.mysql, ""⟩, some ⟨.empty, ⟨[("g", "other")]⟩, ["other"]⟩, none, .empty⟩
  allow := ⟨false, false, false⟩

/-- The statements of `cautiousChange`. -/
def cautiousStatements : List Statement :=
  [.dropTable "n", .dropView "n", .createTable "n" [] none [], .dropIndex "t" "j",
    .createIndex ⟨"j", "t", ["a"], false, false⟩, .dropTable "v", .createView "v" "other",
    .alter "t" (.dropForeignKey "k"), .dropIndex "t" "k",
    .alter "t" (.addForeignKey ⟨"k", "t", "n", [⟨"a", "key"⟩]⟩)]

/-- What `cautiousChange` drops has something else in its place. -/
theorem losses_of_cautiousChange :
    cautiousChange.run.outcome = .ok cautiousStatements ∧
      (∀ table column, .alter table (.dropColumn column) ∉ cautiousStatements) ∧
      (cautiousChange.databaseOf "v").isSome ∧
      (cautiousChange.new.foreignKeysOf "t").Redeclares (cautiousChange.old.foreignKeysOf "t")
        "k" ∧
      (cautiousChange.new.indexesOf "t").Redeclares (cautiousChange.old.indexesOf "t") "j" := by
  have hrun : cautiousChange.run.outcome = .ok cautiousStatements := rfl
  obtain ⟨hcolumns, htables, hkeys⟩ := cautiousChange.losses_without_permission hrun
  have hview := htables rfl "v" (Or.inl (by simp [cautiousStatements]))
  have hkey := (hkeys rfl).1 "t" "k" (by simp [cautiousStatements])
  have hindex := (hkeys rfl).2 "t" "j" (by simp [cautiousStatements])
  exact ⟨hrun, hcolumns rfl, hview.resolve_left (by decide), hkey,
    hindex.resolve_right (by simp [cautiousStatements])⟩

end Migration

end SchemaPlan
