import SchemaPlan.Proofs.Ordered
import SchemaPlan.Schema

/-!
# The views of a schema

What the derived lists and maps of a schema hold: the names of its tables are distinct, and the
indexes and foreign keys of a table stand under their own names and belong to that table.

* `Table.column?_name` says that with distinct names each column of a table is found under its own.
* `Schema.mem_tableNames` says that the names of the tables are those that `Schema.table?` knows.
* `Schema.indexesOf_eq`, `Schema.foreignKeysOf_eq` and `Schema.seedsOf_eq` say that a table has what
  is declared for it, out of all that is declared of that kind.
* `Schema.isTableMap_indexesOf` and `Schema.isTableMap_foreignKeysOf` say that what is found under a
  name in the maps of a table bears that name and belongs to that table.
-/
namespace SchemaPlan

/-! ## Columns -/

/-- The column that is found under a name bears it. -/
theorem Table.column?_eq_some {t : Table} {name : String} {c : Column}
    (h : t.column? name = some c) : c ∈ t.columns ∧ c.name = name := by
  unfold column? at h
  have hname := List.find?_some h
  exact ⟨List.mem_of_find?_eq_some h, beq_iff_eq.mp hname⟩

/-- With distinct names each column is the one of its name. -/
theorem Table.column?_name {t : Table} (h : (t.columns.map Column.name).Nodup) {c : Column}
    (hc : c ∈ t.columns) : t.column? c.name = some c := by
  cases hfound : t.column? c.name with
  | none =>
    rw [column?, List.find?_eq_none] at hfound
    exact absurd (beq_self_eq_true c.name) (hfound c hc)
  | some d =>
    obtain ⟨hd, hname⟩ := Table.column?_eq_some hfound
    rw [List.inj_on_of_nodup_map h hd hc hname]

/-! ## Entities by kind -/

namespace Entity

/-- The table that an entity is. -/
def table? : Entity → Option Table
  | .table t => some t
  | _ => none

/-- The index that an entity is. -/
def index? : Entity → Option Index
  | .index i => some i
  | _ => none

/-- The foreign key that an entity is. -/
def foreignKey? : Entity → Option ForeignKey
  | .foreignKey k => some k
  | _ => none

/-- The seed row that an entity is. -/
def seed? : Entity → Option SeedRow
  | .seed r => some r
  | _ => none

end Entity

namespace Schema

variable (s : Schema) {name table : String}

/-- All tables of the document, also those that do not count. -/
def declaredTables : List Table := s.entities.filterMap Entity.table?

/-- All indexes of the document. -/
def declaredIndexes : List Index := s.entities.filterMap Entity.index?

/-- All foreign keys of the document. -/
def declaredKeys : List ForeignKey := s.entities.filterMap Entity.foreignKey?

/-- All seed rows of the document. -/
def declaredSeeds : List SeedRow := s.entities.filterMap Entity.seed?

/-- What is declared of a kind are the entities of that kind. -/
theorem mem_filterMap_entities {α : Type} {kind? : Entity → Option α} {entity : α → Entity}
    (h : ∀ e x, kind? e = some x ↔ e = entity x) {x : α} :
    x ∈ s.entities.filterMap kind? ↔ entity x ∈ s.entities := by
  rw [List.mem_filterMap]
  constructor
  · rintro ⟨e, he, hx⟩
    rw [← (h e x).mp hx]
    exact he
  · exact fun hx => ⟨entity x, hx, (h _ x).mpr rfl⟩

@[simp] theorem mem_declaredTables {t : Table} :
    t ∈ s.declaredTables ↔ Entity.table t ∈ s.entities :=
  s.mem_filterMap_entities fun e t => by cases e <;> simp [Entity.table?]

@[simp] theorem mem_declaredIndexes {i : Index} :
    i ∈ s.declaredIndexes ↔ Entity.index i ∈ s.entities :=
  s.mem_filterMap_entities fun e i => by cases e <;> simp [Entity.index?]

@[simp] theorem mem_declaredKeys {k : ForeignKey} :
    k ∈ s.declaredKeys ↔ Entity.foreignKey k ∈ s.entities :=
  s.mem_filterMap_entities fun e k => by cases e <;> simp [Entity.foreignKey?]

@[simp] theorem mem_declaredSeeds {r : SeedRow} :
    r ∈ s.declaredSeeds ↔ Entity.seed r ∈ s.entities :=
  s.mem_filterMap_entities fun e r => by cases e <;> simp [Entity.seed?]

/-- The table of a name is the first one that is declared under it. -/
theorem table?_eq (name : String) :
    s.table? name = s.declaredTables.find? fun t => t.name == name := by
  rw [declaredTables, table?]
  induction s.entities with
  | nil => rfl
  | cons e rest ih =>
    cases e with
    | table t =>
      by_cases h : t.name = name <;> simp [Entity.table?, h, ih]
    | index _ => simpa [Entity.table?] using ih
    | foreignKey _ => simpa [Entity.table?] using ih
    | seed _ => simpa [Entity.table?] using ih

/-- The tables by name are written from the declared tables. -/
theorem tables_eq : s.tables = s.declaredTables.foldl (fun m t => m.putNew t.name t) .empty := by
  rw [declaredTables, List.foldl_filterMap, tables]
  congr 1
  funext m e
  cases e <;> rfl

theorem indexesOf_eq (table : String) :
    s.indexesOf table = .collect Index.name (s.declaredIndexes.filter fun i => i.table == table) := by
  rw [Ordered.collect, List.foldl_filter, declaredIndexes, List.foldl_filterMap, indexesOf]
  congr 1
  funext m e
  cases e <;> simp [Entity.index?]

theorem foreignKeysOf_eq (table : String) :
    s.foreignKeysOf table =
      .collect ForeignKey.name (s.declaredKeys.filter fun k => k.table == table) := by
  rw [Ordered.collect, List.foldl_filter, declaredKeys, List.foldl_filterMap, foreignKeysOf]
  congr 1
  funext m e
  cases e <;> simp [Entity.foreignKey?]

theorem seedsOf_eq (table : String) :
    s.seedsOf table = s.declaredSeeds.filter fun r => r.table == table := by
  rw [declaredSeeds, List.filter_filterMap, seedsOf]
  congr 1
  funext e
  cases e <;> simp [Entity.seed?, Option.filter]

/-- A seed row of a table belongs to it. -/
theorem table_of_mem_seedsOf {r : SeedRow} (hr : r ∈ s.seedsOf table) : r.table = table := by
  rw [seedsOf_eq, List.mem_filter, beq_iff_eq] at hr
  exact hr.2

/-! ## Tables -/

/-- The table that is found under a name bears it and is an entity of the schema. -/
theorem table?_eq_some {t : Table} (h : s.table? name = some t) :
    t.name = name ∧ Entity.table t ∈ s.entities := by
  obtain ⟨e, he, hfound⟩ := List.exists_of_findSome?_eq_some h
  cases e with
  | table u =>
    by_cases hname : u.name = name
    · simp only [hname, if_true, Option.some.injEq] at hfound
      subst hfound
      exact ⟨hname, he⟩
    · simp [hname] at hfound
  | index _ => simp at hfound
  | foreignKey _ => simp at hfound
  | seed _ => simp at hfound

theorem mem_tableNames : name ∈ s.tableNames ↔ (s.table? name).isSome := by
  rw [← get?_tables]
  exact (s.tables.has_iff_mem_keys name).symm

theorem nodup_tableNames : s.tableNames.Nodup := by
  unfold tableNames tables
  refine List.foldlRecOn (motive := fun m : Ordered Table => m.keys.Nodup) s.entities _
    List.nodup_nil ?_
  intro m hm e _
  cases e with
  | table t => exact Ordered.nodup_keys_putNew hm t.name t
  | index _ => exact hm
  | foreignKey _ => exact hm
  | seed _ => exact hm

/-! ## Indexes and foreign keys -/

/-- A map of the things that belong to a table, each under its own name. -/
structure IsTableMap {α : Type} (name tableOf : α → String) (table : String) (m : Ordered α) :
    Prop where
  keyed : m.IsKeyed name
  belongs : ∀ a ∈ m.values, tableOf a = table

theorem isTableMap_collect {α : Type} {name tableOf : α → String} {as : List α} :
    IsTableMap name tableOf table (.collect name (as.filter fun a => tableOf a == table)) :=
  ⟨Ordered.isKeyed_collect _, fun _ ha =>
    beq_iff_eq.mp (List.mem_filter.mp (Ordered.mem_of_mem_collect ha)).2⟩

theorem isTableMap_indexesOf (table : String) :
    IsTableMap Index.name Index.table table (s.indexesOf table) := by
  rw [indexesOf_eq]
  exact isTableMap_collect

theorem isTableMap_foreignKeysOf (table : String) :
    IsTableMap ForeignKey.name ForeignKey.table table (s.foreignKeysOf table) := by
  rw [foreignKeysOf_eq]
  exact isTableMap_collect

end Schema

end SchemaPlan
