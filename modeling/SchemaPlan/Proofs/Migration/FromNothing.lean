import Mathlib.Data.List.Perm.Basic
import SchemaPlan.Proofs.Migration.Unchanged
import SchemaPlan.Proofs.Statement.Creation

/-!
# Migrating from nothing

There are two ways to create a schema: its creation, which goes through the entities kind by kind,
and a migration from the empty schema, which goes through the tables.  Where the names of tables,
and those of the foreign keys of a table, are distinct, both write the same statements in another
order, and in both of them a foreign key is added when all tables are there.

* `Migration.tableCreation_eq` says what creating one table consists of.
* `Migration.run_ordered` says that no run adds a foreign key before it creates a table.
* `Migration.flatMap_created_perm` and `Migration.flatMap_keyCreation_perm` compare what is written
  table by table with what is written kind by kind.
-/
namespace SchemaPlan

/-! ## Grouping -/

/-- Items that are grouped by distinct keys are all there, each as often as before. -/
theorem flatMap_filter_perm {α : Type} {key : α → String} {keys : List String} (hkeys : keys.Nodup)
    {items : List α} (hitems : ∀ a ∈ items, key a ∈ keys) :
    (keys.flatMap fun k => items.filter fun a => key a == k).Perm items := by
  induction keys generalizing items with
  | nil =>
    rw [List.eq_nil_iff_forall_not_mem.mpr fun a ha => List.not_mem_nil (hitems a ha)]
    exact .nil
  | cons k rest ih =>
    obtain ⟨hk, hrest⟩ := List.nodup_cons.mp hkeys
    -- The groups of the other keys are groups of what the first key leaves over.
    have hothers : (rest.flatMap fun r => items.filter fun a => key a == r) =
        rest.flatMap fun r => (items.filter fun a => !(key a == k)).filter fun a => key a == r := by
      refine List.flatMap_congr fun r hr => ?_
      rw [List.filter_filter]
      refine List.filter_congr fun a _ => ?_
      by_cases ha : key a = r
      · have hne : key a ≠ k := fun h => hk (h ▸ ha ▸ hr)
        simp [ha, ha ▸ hne]
      · simp [ha]
    rw [List.flatMap_cons, hothers]
    refine ((ih hrest fun a ha => ?_).append_left _).trans (List.filter_append_perm _ items)
    obtain ⟨hmem, hne⟩ := List.mem_filter.mp ha
    exact (List.mem_cons.mp (hitems a hmem)).resolve_left (by simpa using hne)

namespace Schema

variable {s : Schema} {table : String}

/-- Tables have distinct names, and so have the foreign keys of a table. -/
structure HasDistinctNames (s : Schema) : Prop where
  tables : (s.declaredTables.map Table.name).Nodup
  keys : (s.declaredKeys.map fun k => (k.table, k.name)).Nodup

namespace HasDistinctNames

/-- All tables of the document count. -/
theorem tables_eq (h : s.HasDistinctNames) :
    s.tables = ⟨s.declaredTables.map fun t => (t.name, t)⟩ := by
  rw [Schema.tables_eq]
  refine Ordered.foldl_of_nodup (m := .empty) (fun m t ht => ?_) h.tables
  rw [Ordered.putNew, if_neg fun hhas => ht ((m.has_iff_mem_keys t.name).mp hhas)]

theorem tableNames_eq (h : s.HasDistinctNames) :
    s.tableNames = s.declaredTables.map Table.name := by
  rw [tableNames, h.tables_eq, Ordered.keys, List.map_map]
  rfl

/-- Each table is the one of its name. -/
theorem table?_name (h : s.HasDistinctNames) {t : Table} (ht : t ∈ s.declaredTables) :
    s.table? t.name = some t := by
  rw [← get?_tables, Ordered.get?_eq_some_iff_mem s.nodup_tableNames, h.tables_eq]
  exact List.mem_map_of_mem ht

/-- All foreign keys of a table count. -/
theorem values_foreignKeysOf (h : s.HasDistinctNames) (table : String) :
    (s.foreignKeysOf table).values = s.declaredKeys.filter fun k => k.table == table := by
  have hnames : ((s.declaredKeys.filter fun k => k.table == table).map ForeignKey.name).Nodup := by
    have hpairs := h.keys.sublist ((List.filter_sublist (p := fun k => k.table == table)).map _)
    rw [List.map_congr_left (g := Prod.mk table ∘ ForeignKey.name) fun k hk => by
      rw [beq_iff_eq.mp (List.mem_filter.mp hk).2]; rfl, ← List.map_map] at hpairs
    exact hpairs.of_map
  rw [foreignKeysOf_eq, Ordered.collect_of_nodup hnames, Ordered.values, List.map_map]
  exact List.map_id _

end HasDistinctNames

end Schema

namespace Migration

open scoped List

variable (m : Migration) {table : String} {statements : List Statement}

/-! ## One table -/

theorem isSelfContained_partOf (h : (m.new.table? table).isSome) :
    (m.partOf table).IsSelfContained := by
  intro e he
  rw [(m.mem_partOf he).1, table?_partOf]
  exact h

/-- The indexes of that part are those of the table. -/
theorem indexesOf_partOf : (m.partOf table).indexesOf table = m.new.indexesOf table := by
  have hmap := m.new.isTableMap_indexesOf table
  rw [Schema.indexesOf_eq, declaredIndexes_partOf, List.filter_eq_self.mpr fun i hi =>
    beq_iff_eq.mpr (hmap.belongs i hi)]
  exact hmap.keyed.collect_values

/-- **Creating a table** is writing it, with its indexes, and its seed rows as the whole schema has
them. -/
theorem tableCreation_eq {t : Table} (h : m.new.table? table = some t) :
    m.tableCreation table =
      Noted.gather (m.new.tableStatements m.deployment (.table t) ::
        (m.new.seedsOf table).map fun r => m.new.seedStatements m.deployment (.seed r)) := by
  have hname : t.name = table := (m.new.table?_eq_some h).1
  have htable : (m.partOf table).tableStatements m.deployment (.table t) =
      m.new.tableStatements m.deployment (.table t) :=
    Schema.tableStatements_congr (by rw [hname, indexesOf_partOf])
  have hseeds : ∀ r ∈ m.new.seedsOf table, (m.partOf table).seedStatements m.deployment (.seed r) =
      m.new.seedStatements m.deployment (.seed r) := fun r hr =>
    Schema.seedStatements_congr (by rw [m.new.table_of_mem_seedsOf hr, table?_partOf])
  rw [tableCreation,
    Schema.creation_eq (m.isSelfContained_partOf (by rw [h]; rfl)).hasTablesOfIndexes,
    declaredTables_partOf, declaredKeys_partOf, declaredSeeds_partOf, h, Option.toList_some,
    List.map_singleton, List.map_nil, List.append_nil, List.singleton_append, htable,
    List.map_congr_left hseeds]

/-- The keys of a table are created as the whole schema has them. -/
theorem keyCreation_eq :
    m.keyCreation table =
      (m.new.foreignKeysOf table).values.flatMap (m.new.keyPart m.deployment) := by
  have hown : ∀ k ∈ (m.new.foreignKeysOf table).values, m.new.keyPart m.deployment k =
      if (m.databaseOf table).isNone then [.alter table (.addForeignKey k)] else [] := by
    intro k hk
    have htable : k.table = table := (m.new.isTableMap_foreignKeysOf table).belongs k hk
    rw [Schema.keyPart, databaseOf, htable]
  rw [keyCreation, List.flatMap_congr hown]
  cases m.databaseOf table <;> simp [List.map_eq_flatMap]

theorem outcome_tableCreation {t : Table} (h : m.new.table? table = some t)
    (htable : (m.new.tableStatements m.deployment (.table t)).outcome =
      .ok (m.new.tablePart m.deployment t))
    (hseeds : ∀ r ∈ m.new.seedsOf table, (m.new.seedStatements m.deployment (.seed r)).outcome =
      .ok (m.new.seedPart m.deployment r)) :
    (m.tableCreation table).outcome = .ok (m.new.tablePart m.deployment t ++
      (m.new.seedsOf table).flatMap (m.new.seedPart m.deployment)) := by
  rw [m.tableCreation_eq h, Noted.outcome_gather_cons]
  exact ⟨_, _, htable, (Noted.outcome_gather_map _ _ _).mpr ⟨hseeds, rfl⟩, rfl⟩

/-! ## The run -/

/-- **No run adds a foreign key** before it creates a table or a view. -/
theorem run_ordered (h : m.run.outcome = .ok statements) :
    Precedes Statement.Creates Statement.AddsForeignKey statements := by
  obtain ⟨hadded, hcommon, rfl⟩ := (m.run_eq_ok_iff).mp h
  have hkeyDrop : ∀ table dropped key, Each (fun x => ¬ x.AddsForeignKey)
      (m.keyDrop table dropped key) := fun _ _ _ => .cons id (.ite (.singleton id) .nil)
  have hplain : ∀ {table l}, Plain table l → Each (fun x => ¬ x.AddsForeignKey) l :=
    fun hl => (hl.mono fun _ hx => hx.2).not_addsForeignKey
  have honKeys : ∀ {table l}, OnKeys table l → Each (fun x => ¬ x.Creates) l := by
    refine fun hl => (hl.mono fun x hx => ?_).not_creates
    rcases hx.2 with hkind | hkind <;> rw [hkind] <;> decide
  have hearly : Each (fun x => ¬ x.AddsForeignKey)
      (m.common.flatMap m.staleDrops ++
        (if m.allow.dropTable then m.removed.flatMap m.tableDrops else []) ++
        m.added.flatMap m.created ++ m.common.flatMap m.changed) :=
    .append (.append (.append
      (.flatMap fun t _ => .append (.flatMap fun key _ => hkeyDrop t [] key) (.map fun _ _ => id))
      (.ite (.flatMap fun t _ => hplain (m.plain_tableDrops t)) .nil))
      (.flatMap fun t ht => hplain (m.plain_created (hadded t ht))))
      (.flatMap fun t ht => hplain (m.plain_changed ht (hcommon t ht)))
  have hkeys : Each (fun x => ¬ x.Creates) (m.added.flatMap m.keyCreation) :=
    .flatMap fun t _ => honKeys (m.onKeys_keyCreation t)
  have hlast : Each (fun x => ¬ x.Creates) (m.common.flatMap m.keyChanges) :=
    .flatMap fun t _ => honKeys (m.onKeys_keyChanges t)
  exact precedes_append_iff.mpr ⟨precedes_append_iff.mpr
    ⟨.of_not_second hearly, .of_not_first hkeys, Or.inr hkeys⟩, .of_not_first hlast, Or.inr hlast⟩

/-! ## From the empty schema -/

/-- The migration from the empty schema. -/
def fromNothing (s : Schema) (d : Deployment) (allow : Permissions) : Migration :=
  ⟨.empty, s, d, allow⟩

section FromNothing

variable {s : Schema} {d : Deployment} (allow : Permissions) {l : List Statement}

theorem added_fromNothing : (fromNothing s d allow).added = s.tableNames :=
  List.filter_eq_self.mpr fun _ _ => rfl

/-- A migration from nothing succeeds when all its tables can be created. -/
theorem run_fromNothing
    (h : ∀ t ∈ s.tableNames, ((fromNothing s d allow).tableCreation t).outcome =
      .ok ((fromNothing s d allow).created t)) :
    (fromNothing s d allow).run.outcome =
      .ok (s.tableNames.flatMap (fromNothing s d allow).created ++
        s.tableNames.flatMap (fromNothing s d allow).keyCreation) := by
  have hcommon : (fromNothing s d allow).common = [] := rfl
  have hremoved : (fromNothing s d allow).removed = [] := rfl
  rw [run_eq_ok_iff, added_fromNothing, hcommon, hremoved]
  exact ⟨h, nofun, by simp⟩

/-- Tables and seed rows are created table by table. -/
theorem flatMap_created_perm (hs : s.IsSelfContained) (hnames : s.HasDistinctNames)
    (hcreated : ∀ t ∈ s.declaredTables, (fromNothing s d allow).created t.name =
      s.tablePart d t ++ (s.seedsOf t.name).flatMap (s.seedPart d)) :
    (s.tableNames.flatMap (fromNothing s d allow).created).Perm
      (s.declaredTables.flatMap (s.tablePart d) ++ s.declaredSeeds.flatMap (s.seedPart d)) := by
  have hseeds : (s.tableNames.flatMap s.seedsOf).Perm s.declaredSeeds := by
    rw [funext s.seedsOf_eq]
    exact flatMap_filter_perm s.nodup_tableNames fun r hr =>
      s.mem_tableNames.mpr (hs _ (s.mem_declaredSeeds.mp hr))
  calc s.tableNames.flatMap (fromNothing s d allow).created
      = s.declaredTables.flatMap fun t =>
          s.tablePart d t ++ (s.seedsOf t.name).flatMap (s.seedPart d) := by
        rw [hnames.tableNames_eq, List.flatMap_map]
        exact List.flatMap_congr hcreated
    _ ~ s.declaredTables.flatMap (s.tablePart d) ++
          s.declaredTables.flatMap fun t => (s.seedsOf t.name).flatMap (s.seedPart d) :=
        (List.flatMap_append_perm _ _ _).symm
    _ = s.declaredTables.flatMap (s.tablePart d) ++
          (s.tableNames.flatMap s.seedsOf).flatMap (s.seedPart d) := by
        rw [hnames.tableNames_eq, List.flatMap_map, List.flatMap_assoc]
    _ ~ s.declaredTables.flatMap (s.tablePart d) ++ s.declaredSeeds.flatMap (s.seedPart d) :=
        (hseeds.flatMap_right _).append_left _

/-- Foreign keys are created table by table. -/
theorem flatMap_keyCreation_perm (hs : s.IsSelfContained) (hnames : s.HasDistinctNames) :
    (s.tableNames.flatMap (fromNothing s d allow).keyCreation).Perm
      (s.declaredKeys.flatMap (s.keyPart d)) := by
  have hkeys : (s.tableNames.flatMap fun t => s.declaredKeys.filter fun k => k.table == t).Perm
      s.declaredKeys :=
    flatMap_filter_perm s.nodup_tableNames fun k hk =>
      s.mem_tableNames.mpr (hs _ (s.mem_declaredKeys.mp hk))
  have heq : s.tableNames.flatMap (fromNothing s d allow).keyCreation =
      (s.tableNames.flatMap fun t => s.declaredKeys.filter fun k => k.table == t).flatMap
        (s.keyPart d) := by
    rw [List.flatMap_assoc]
    refine List.flatMap_congr fun t _ => ?_
    rw [keyCreation_eq, ← hnames.values_foreignKeysOf]
    rfl
  rw [heq]
  exact hkeys.flatMap_right _

/-- **A migration from nothing** writes what the creation of the schema writes, as often and perhaps
in another order; both add a foreign key when all tables are there. -/
theorem run_perm_creation (hs : s.IsSelfContained) (hnames : s.HasDistinctNames)
    (h : (s.creation d).outcome = .ok l) :
    ∃ statements, (fromNothing s d allow).run.outcome = .ok statements ∧
      statements.Perm l ∧ Precedes Statement.Creates Statement.AddsForeignKey statements ∧
      Precedes Statement.Creates Statement.AddsForeignKey l := by
  have hordered := Schema.creation_ordered h
  obtain ⟨htables, hseeds, rfl⟩ := (Schema.creation_iff hs).mp h
  have houtcome : ∀ t ∈ s.declaredTables, ((fromNothing s d allow).tableCreation t.name).outcome =
      .ok (s.tablePart d t ++ (s.seedsOf t.name).flatMap (s.seedPart d)) := fun t ht =>
    (fromNothing s d allow).outcome_tableCreation (hnames.table?_name ht) (htables t ht)
      fun r hr => hseeds r (List.mem_of_mem_filter (s.seedsOf_eq t.name ▸ hr))
  have hcreated : ∀ t ∈ s.declaredTables, (fromNothing s d allow).created t.name =
      s.tablePart d t ++ (s.seedsOf t.name).flatMap (s.seedPart d) := fun t ht =>
    Noted.resultOrNil_of_ok (houtcome t ht)
  have hrun := run_fromNothing (s := s) (d := d) allow fun name hname => by
    rw [hnames.tableNames_eq] at hname
    obtain ⟨t, ht, rfl⟩ := List.mem_map.mp hname
    rw [houtcome t ht, hcreated t ht]
  refine ⟨_, hrun, ?_, run_ordered _ hrun, hordered⟩
  -- The creation has its foreign keys before its seed rows, the migration behind them.
  refine ((flatMap_created_perm allow hs hnames hcreated).append
    (flatMap_keyCreation_perm allow hs hnames)).trans ?_
  rw [List.append_assoc, List.append_assoc]
  exact List.perm_append_comm.append_left _

end FromNothing

/-! ## A schema in any order -/

/-- Two tables, each behind what belongs to it; the first one refers to the second one. -/
def shelf : Schema :=
  ⟨[.seed ⟨"book", [⟨"a", .literal (some (.text "1")), false⟩], [], false⟩,
    .foreignKey ⟨"k", "book", "author", [⟨"a", "id"⟩]⟩,
    .index ⟨"i", "book", ["a"], false, false⟩,
    .table ⟨"book", [⟨"a", .base .integer, 0, 0, true, none, none, false, false, none⟩], none, none⟩,
    .seed ⟨"author", [⟨"id", .literal (some (.text "1")), false⟩], [], false⟩,
    .table ⟨"author", [⟨"id", .base .integer, 0, 0, true, none, none, false, false, none⟩], none,
      none⟩]⟩

/-- Where `shelf` is created. -/
def shelfDeployment : Deployment := ⟨⟨.pgsql, ""⟩, none, none, .empty⟩

/-- The creation of `shelf`. -/
def shelfStatements : List Statement :=
  [.dropTable "book", .dropView "book",
    .createTable "book"
      [⟨⟨"a", .base .integer, 0, 0, true, none, none, false, false, none⟩, "integer"⟩] none [],
    .createIndex ⟨"i", "book", ["a"], false, false⟩,
    .dropTable "author", .dropView "author",
    .createTable "author"
      [⟨⟨"id", .base .integer, 0, 0, true, none, none, false, false, none⟩, "integer"⟩] none [],
    .alter "book" (.addForeignKey ⟨"k", "book", "author", [⟨"a", "id"⟩]⟩),
    .insert "book" [⟨"a", .plain (.text "1")⟩], .insert "author" [⟨"id", .plain (.text "1")⟩]]

/-- `shelf` is created table by table with the statements of its creation. -/
theorem shelf_from_nothing :
    shelf.IsSelfContained ∧ shelf.HasDistinctNames ∧
      (shelf.creation shelfDeployment).outcome = .ok shelfStatements ∧
      ∃ statements, (fromNothing shelf shelfDeployment ⟨false, false, false⟩).run.outcome =
          .ok statements ∧
        statements.Perm shelfStatements ∧
        Precedes Statement.Creates Statement.AddsForeignKey statements ∧
        Precedes Statement.Creates Statement.AddsForeignKey shelfStatements := by
  have hs : shelf.IsSelfContained := by
    unfold Schema.IsSelfContained
    decide
  have hnames : shelf.HasDistinctNames := ⟨by decide, by decide⟩
  have hcreation : (shelf.creation shelfDeployment).outcome = .ok shelfStatements := rfl
  exact ⟨hs, hnames, hcreation, run_perm_creation ⟨false, false, false⟩ hs hnames hcreation⟩

end Migration

end SchemaPlan
