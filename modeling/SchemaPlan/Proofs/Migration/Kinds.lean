import SchemaPlan.Proofs.Migration.Additions
import SchemaPlan.Proofs.Migration.Reading
import SchemaPlan.Proofs.Statement.Restriction

/-!
# Entities of different kinds

Tables, indexes, foreign keys and seed rows may be mixed in any way: a migration reads a schema
through its views, and each of these reads one kind of entities.  The creation of a schema goes
through the list of entities itself; there the mixture matters for indexes without a table alone.

* `Schema.SameByKind` says that two schemas have the same entities of each kind in order.
* `Schema.SameByKind.looksLike` says that a migration sees no difference between them,
  `Schema.SameByKind.creation` that they are created alike.
-/
namespace SchemaPlan

namespace Schema

variable {s u : Schema}

/-- Two schemas have the same tables, indexes, foreign keys and seed rows, those of each kind in the
same order. -/
structure SameByKind (s u : Schema) : Prop where
  tables : s.declaredTables = u.declaredTables
  indexes : s.declaredIndexes = u.declaredIndexes
  keys : s.declaredKeys = u.declaredKeys
  seeds : s.declaredSeeds = u.declaredSeeds

namespace SameByKind

theorem agreesOn (h : s.SameByKind u) (name : String) : s.AgreesOn u name where
  table := by rw [table?_eq, table?_eq, h.tables]
  indexes := by rw [indexesOf_eq, indexesOf_eq, h.indexes]
  keys := by rw [foreignKeysOf_eq, foreignKeysOf_eq, h.keys]
  seeds := by rw [seedsOf_eq, seedsOf_eq, h.seeds]

/-- The views of a schema read one kind of entities each. -/
theorem looksLike (h : s.SameByKind u) : s.LooksLike u where
  tableNames := by rw [tableNames, tableNames, tables_eq, tables_eq, h.tables]
  agreesOn := h.agreesOn

theorem hasTablesOfIndexes (h : s.SameByKind u) (hs : s.HasTablesOfIndexes) :
    u.HasTablesOfIndexes := by
  intro i hi
  rw [← (h.agreesOn i.table).table]
  exact hs i (h.indexes ▸ hi)

/-- Schemas that differ in the mixture of kinds alone are created alike when each index belongs to a
table. -/
theorem creation (h : s.SameByKind u) (hs : s.HasTablesOfIndexes) (d : Deployment) :
    s.creation d = u.creation d := by
  have htables : s.tableStatements d = u.tableStatements d :=
    funext fun e => tableStatements_of_agreesOn (h.agreesOn e.tableName)
  have hkeys : s.keyPart d = u.keyPart d := by
    funext k
    rw [keyPart, keyPart, mappedDatabase, mappedDatabase, (h.agreesOn k.table).table]
  have hseeds : s.seedStatements d = u.seedStatements d :=
    funext fun e => seedStatements_of_agreesOn (h.agreesOn e.tableName)
  rw [creation_eq hs, creation_eq (h.hasTablesOfIndexes hs), h.tables, h.keys, h.seeds, htables,
    hkeys, hseeds]

end SameByKind

end Schema

namespace Migration

/-- **The mixture of kinds does not matter**: a migration from or to a schema, and its creation when
each index belongs to a table, stay the same when the schema is replaced by one that has the same
entities of each kind in order. -/
theorem sql_of_sameByKind {s u : Schema} (h : s.SameByKind u) :
    (∀ (other : Schema) (d : Deployment) (allow : Permissions) (bound : Int),
      (⟨s, other, d, allow⟩ : Migration).sql bound = (⟨u, other, d, allow⟩ : Migration).sql bound ∧
      (⟨other, s, d, allow⟩ : Migration).sql bound =
        (⟨other, u, d, allow⟩ : Migration).sql bound) ∧
    (s.HasTablesOfIndexes → ∀ d : Deployment, s.creationSql d = u.creationSql d) := by
  refine ⟨fun other d allow bound => ⟨?_, ?_⟩, fun hs d => ?_⟩
  · have hreads : ReadsAlike ⟨s, other, d, allow⟩ ⟨u, other, d, allow⟩ :=
      ⟨h.looksLike, .refl other, rfl, rfl, rfl⟩
    exact hreads.sql (fun table _ => tableCreation_congr rfl (hreads.new.agreesOn table)) bound
  · have hreads : ReadsAlike ⟨other, s, d, allow⟩ ⟨other, u, d, allow⟩ :=
      ⟨.refl other, h.looksLike, rfl, rfl, rfl⟩
    exact hreads.sql (fun table _ => tableCreation_congr rfl (hreads.new.agreesOn table)) bound
  · rw [Schema.creationSql, Schema.creationSql, h.creation hs]

/-! ## A tidy shelf -/

/-- The entities of `shelf`, kind by kind. -/
def tidyShelf : Schema :=
  ⟨[.table ⟨"book", [⟨"a", .base .integer, 0, 0, true, none, none, false, false, none⟩], none, none⟩,
    .table ⟨"author", [⟨"id", .base .integer, 0, 0, true, none, none, false, false, none⟩], none,
      none⟩,
    .index ⟨"i", "book", ["a"], false, false⟩,
    .foreignKey ⟨"k", "book", "author", [⟨"a", "id"⟩]⟩,
    .seed ⟨"book", [⟨"a", .literal (some (.text "1")), false⟩], [], false⟩,
    .seed ⟨"author", [⟨"id", .literal (some (.text "1")), false⟩], [], false⟩]⟩

/-- `shelf` and `tidyShelf` are the same to a migration from orders, to one into orders, and to their
creation. -/
theorem shelf_like_tidyShelf :
    shelf.SameByKind tidyShelf ∧ shelf.HasTablesOfIndexes ∧
      (⟨shelf, orders (.base .integer), shelfDeployment, ⟨true, true, true⟩⟩ : Migration).sql 80 =
        (⟨tidyShelf, orders (.base .integer), shelfDeployment, ⟨true, true, true⟩⟩ :
          Migration).sql 80 ∧
      (⟨orders (.base .integer), shelf, shelfDeployment, ⟨true, true, true⟩⟩ : Migration).sql 80 =
        (⟨orders (.base .integer), tidyShelf, shelfDeployment, ⟨true, true, true⟩⟩ :
          Migration).sql 80 ∧
      shelf.creationSql shelfDeployment = tidyShelf.creationSql shelfDeployment := by
  have hkinds : shelf.SameByKind tidyShelf := ⟨rfl, rfl, rfl, rfl⟩
  have hindexes : shelf.HasTablesOfIndexes := by
    unfold Schema.HasTablesOfIndexes
    decide
  obtain ⟨hmigrations, hcreation⟩ := sql_of_sameByKind hkinds
  obtain ⟨hfrom, hto⟩ :=
    hmigrations (orders (.base .integer)) shelfDeployment ⟨true, true, true⟩ 80
  exact ⟨hkinds, hindexes, hfrom, hto, hcreation hindexes shelfDeployment⟩

end Migration

end SchemaPlan
