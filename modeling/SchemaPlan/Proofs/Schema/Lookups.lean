import SchemaPlan.Proofs.Schema.Views
import SchemaPlan.Register

/-!
# What a register finds

The lookups of a register are kept in step with the list of its entities.  After any requests they
are the views of the schema that has these entities, whatever names the entities share and whatever
was refused or looked up in between.

* `Register.Mirrors` says that a register has what a schema has; `Register.Mirrors.add` that one
  more entity keeps it so, and `Register.Mirrors.serveAll` that any requests do.
* `Schema.tableNames_eq`, `Schema.isLatest_indexesOf` and `Schema.isLatest_foreignKeysOf` say what
  the views of a schema are.
* `Register.serve_after` puts this together: what a register answers after any requests.
-/
namespace SchemaPlan

/-! ## Views with one more entity -/

namespace Schema

variable (s : Schema) (e : Entity) (table : String)

theorem tables_add :
    (s.add e).tables = match e with
      | .table t => s.tables.putNew t.name t
      | _ => s.tables := by
  rw [tables, add, List.foldl_concat]
  cases e <;> rfl

theorem indexesOf_add :
    (s.add e).indexesOf table = match e with
      | .index i => if i.table = table then (s.indexesOf table).put i.name i else s.indexesOf table
      | _ => s.indexesOf table := by
  rw [indexesOf, add, List.foldl_concat]
  cases e <;> rfl

theorem foreignKeysOf_add :
    (s.add e).foreignKeysOf table = match e with
      | .foreignKey k =>
        if k.table = table then (s.foreignKeysOf table).put k.name k else s.foreignKeysOf table
      | _ => s.foreignKeysOf table := by
  rw [foreignKeysOf, add, List.foldl_concat]
  cases e <;> rfl

theorem seedsOf_add :
    (s.add e).seedsOf table = match e with
      | .seed r => if r.table = table then s.seedsOf table ++ [r] else s.seedsOf table
      | _ => s.seedsOf table := by
  rw [seedsOf, add, List.filterMap_append]
  cases e with
  | seed r =>
    by_cases h : r.table = table <;> simp [seedsOf, h]
  | table t => simp [seedsOf]
  | index i => simp [seedsOf]
  | foreignKey k => simp [seedsOf]

/-! ## What the views are -/

/-- The names of the tables are those that are declared, each one where it stands first. -/
theorem tableNames_eq : s.tableNames = (s.declaredTables.map Table.name).eraseDups := by
  rw [tableNames, tables_eq]
  exact Ordered.keys_foldl_putNew _

/-- Of the indexes of a table the last one of each name counts. -/
theorem isLatest_indexesOf :
    (s.indexesOf table).IsLatest Index.name (s.declaredIndexes.filter fun i => i.table == table) := by
  rw [indexesOf_eq]
  exact Ordered.isLatest_collect _

theorem isLatest_foreignKeysOf :
    (s.foreignKeysOf table).IsLatest ForeignKey.name
      (s.declaredKeys.filter fun k => k.table == table) := by
  rw [foreignKeysOf_eq]
  exact Ordered.isLatest_collect _

/-- The tables that two schemas have in common are those of the first one that the second one
names. -/
theorem commonTableNames_eq (other : Schema) :
    s.commonTableNames other = s.tableNames.filter fun name => name ∈ other.tableNames := by
  refine List.filter_congr fun name _ => ?_
  rw [Bool.eq_iff_iff, decide_eq_true_eq]
  exact other.mem_tableNames.symm

end Schema

/-! ## Registers and schemas -/

namespace Register

/-- A register has what a schema has: its entities, and its views as lookups. -/
structure Mirrors (r : Register) (s : Schema) : Prop where
  entities : r.entities = s.entities
  tables : r.tables = s.tables
  indexes : ∀ table, r.indexesOf table = s.indexesOf table
  foreignKeys : ∀ table, r.foreignKeysOf table = s.foreignKeysOf table
  seeds : ∀ table, r.seedsOf table = s.seedsOf table

variable {r : Register} {s : Schema}

theorem mirrors_empty : empty.Mirrors Schema.empty :=
  ⟨rfl, rfl, fun _ => rfl, fun _ => rfl, fun _ => rfl⟩

/-- What is kept for a table is changed for that table alone. -/
theorem getD_get?_put {α : Type} (m : Ordered α) (otherwise : α) (change : α → α)
    (table other : String) :
    ((m.put table (change ((m.get? table).getD otherwise))).get? other).getD otherwise =
      if table = other then change ((m.get? other).getD otherwise)
      else (m.get? other).getD otherwise := by
  rw [Ordered.get?_put]
  by_cases h : table = other
  · subst h
    simp
  · have h' : other ≠ table := fun e => h e.symm
    simp [h, h']

/-- One more entity enters the lookups by the rule of its kind, as it enters the views. -/
theorem Mirrors.add (h : r.Mirrors s) (e : Entity) : (r.add e).Mirrors (s.add e) where
  entities := congrArg (· ++ [e]) h.entities
  tables := by
    rw [s.tables_add, ← h.tables]
    cases e <;> rfl
  indexes table := by
    rw [s.indexesOf_add, ← h.indexes]
    cases e with
    | index i => exact getD_get?_put r.indexes .empty (·.put i.name i) i.table table
    | _ => rfl
  foreignKeys table := by
    rw [s.foreignKeysOf_add, ← h.foreignKeys]
    cases e with
    | foreignKey k => exact getD_get?_put r.foreignKeys .empty (·.put k.name k) k.table table
    | _ => rfl
  seeds table := by
    rw [s.seedsOf_add, ← h.seeds]
    cases e with
    | seed row => exact getD_get?_put r.seeds [] (· ++ [row]) row.table table
    | _ => rfl

/-- The entity that a request adds. -/
def Request.entity? : Request → Option Entity
  | .add (.inl e) => some e
  | _ => none

/-- A request adds its entity or changes nothing. -/
theorem serve_fst (r : Register) (request : Request) :
    (r.serve request).1 = match request.entity? with
      | some e => r.add e
      | none => r := by
  cases request with
  | add offered => cases offered <;> rfl
  | _ => rfl

/-- After any requests a register has what the schema of the entities has that were added. -/
theorem Mirrors.serveAll (h : r.Mirrors s) (requests : List Request) :
    (r.serveAll requests).Mirrors ⟨s.entities ++ requests.filterMap Request.entity?⟩ := by
  induction requests generalizing r s with
  | nil => simpa [Register.serveAll] using h
  | cons request rest ih =>
    rw [Register.serveAll, List.foldl_cons, serve_fst]
    cases hentity : request.entity? with
    | none =>
      rw [List.filterMap_cons_none hentity]
      exact ih h
    | some e =>
      rw [List.filterMap_cons_some hentity, List.append_cons]
      exact ih (h.add e)

/-- **The answers of a register** after any requests, some of which were refused: it has the entities
that were added, in order; a table is the first one of its name, and the names of the tables stand
where they were first added; of several indexes or foreign keys of one table and name the last one
counts, in the place of the first; the seed rows of a table are all there in order.  What is refused
leaves the register as it was, and so does every lookup. -/
theorem serve_after (requests : List Request) :
    let r := empty.serveAll requests
    let s : Schema := ⟨requests.filterMap Request.entity?⟩
    r.Mirrors s ∧
    (∀ refused, r.serve (.add (.inr refused)) = (r, .error (.fault .wrongKind))) ∧
    (∀ name, r.serve (.table name) =
      (r, .ok (.table (s.declaredTables.find? fun t => t.name == name)))) ∧
    r.serve .tableNames = (r, .ok (.names (s.declaredTables.map Table.name).eraseDups)) ∧
    (∀ table, ∃ indexes, r.serve (.indexes table) = (r, .ok (.indexes indexes)) ∧
      indexes.IsLatest Index.name (s.declaredIndexes.filter fun i => i.table == table)) ∧
    (∀ table, ∃ keys, r.serve (.foreignKeys table) = (r, .ok (.foreignKeys keys)) ∧
      keys.IsLatest ForeignKey.name (s.declaredKeys.filter fun k => k.table == table)) ∧
    (∀ table, r.serve (.seeds table) =
      (r, .ok (.seeds (s.declaredSeeds.filter fun row => row.table == table)))) ∧
    (∀ other : Schema, r.serve (.commonTableNames other) =
      (r, .ok (.names ((s.declaredTables.map Table.name).eraseDups.filter
        fun name => name ∈ other.tableNames)))) ∧
    r.serve .size = (r, .ok (.size s.size)) := by
  intro r s
  have h : r.Mirrors s := mirrors_empty.serveAll requests
  have hnames : r.tableNames = (s.declaredTables.map Table.name).eraseDups := by
    rw [← s.tableNames_eq, tableNames, h.tables]
    rfl
  refine ⟨h, fun _ => rfl, fun name => ?_, ?_, fun table => ⟨_, rfl, ?_⟩, fun table => ⟨_, rfl, ?_⟩,
    fun table => ?_, fun other => ?_, ?_⟩
  · rw [serve, table?, h.tables, s.get?_tables, s.table?_eq]
  · rw [serve, hnames]
  · rw [h.indexes]
    exact s.isLatest_indexesOf table
  · rw [h.foreignKeys]
    exact s.isLatest_foreignKeysOf table
  · rw [serve, h.seeds, s.seedsOf_eq]
  · have hcommon : r.commonTableNames other = s.commonTableNames other := by
      rw [commonTableNames, hnames, ← s.tableNames_eq]
      rfl
    rw [serve, hcommon, s.commonTableNames_eq, s.tableNames_eq]
  · rw [serve, size, h.entities]
    rfl

/-- An index that is added again keeps its place. -/
example : ((empty.serveAll [.add (.inl (.index ⟨"i", "t", ["a"], false, false⟩)),
    .add (.inl (.index ⟨"j", "t", ["a"], false, false⟩)), .add (.inr .null),
    .add (.inl (.index ⟨"i", "t", ["b"], false, false⟩))]).indexesOf "t").values.map
      (fun i => (i.name, i.columns)) = [("i", ["b"]), ("j", ["a"])] := by
  decide

end Register

end SchemaPlan
