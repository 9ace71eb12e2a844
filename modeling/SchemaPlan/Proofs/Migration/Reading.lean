import SchemaPlan.Proofs.Migration.Run
import SchemaPlan.Proofs.Schema.Parts

/-!
# What a migration reads

A migration reads its schemas through their views, and of its deployment it reads the target and the
mapping itself; the rest of the deployment matters only where new tables are created.

* `Schema.LooksLike` says that two schemas have the same views.
* `Migration.ReadsAlike` says that two migrations see no difference; a lemma for each phase leads to
  `Migration.ReadsAlike.run`, which asks for the creation of new tables apart.
-/
namespace SchemaPlan

/-- Two schemas have the same of every table, and the same tables in order. -/
structure Schema.LooksLike (s u : Schema) : Prop where
  tableNames : s.tableNames = u.tableNames
  agreesOn : ∀ name, s.AgreesOn u name

theorem Schema.LooksLike.refl (s : Schema) : s.LooksLike s :=
  ⟨rfl, fun _ => ⟨rfl, rfl, rfl, rfl⟩⟩

namespace Migration

variable {m n : Migration}

/-- Two migrations have schemas that look alike, and the same target, mapping and permissions. -/
structure ReadsAlike (m n : Migration) : Prop where
  old : m.old.LooksLike n.old
  new : m.new.LooksLike n.new
  target : m.deployment.target = n.deployment.target
  mapping : m.deployment.mapping = n.deployment.mapping
  allow : m.allow = n.allow

namespace ReadsAlike

/-! ## The phases -/

section Phases

variable (h : m.ReadsAlike n) (table : String)

include h

theorem dialect : m.dialect = n.dialect := by
  rw [Migration.dialect, Migration.dialect, h.target]

theorem databaseOf : m.databaseOf table = n.databaseOf table := by
  rw [Migration.databaseOf, Migration.databaseOf, Schema.mappedDatabase, Schema.mappedDatabase,
    (h.new.agreesOn table).table, h.mapping]

theorem common : m.common = n.common := by
  have hnew : m.new.table? = n.new.table? := funext fun name => (h.new.agreesOn name).table
  rw [Migration.common, Migration.common, Schema.commonTableNames, Schema.commonTableNames,
    h.old.tableNames, hnew]

theorem added : m.added = n.added := by
  have hold : m.old.table? = n.old.table? := funext fun name => (h.old.agreesOn name).table
  rw [Migration.added, Migration.added, h.new.tableNames, hold]

theorem removed : m.removed = n.removed := by
  have hnew : m.new.table? = n.new.table? := funext fun name => (h.new.agreesOn name).table
  rw [Migration.removed, Migration.removed, h.old.tableNames, hnew]

theorem hasBackingIndex : m.hasBackingIndex table = n.hasBackingIndex table := by
  funext key
  rw [Migration.hasBackingIndex, Migration.hasBackingIndex, h.dialect,
    (h.old.agreesOn table).indexes]

theorem keyDrop : m.keyDrop table = n.keyDrop table := by
  funext dropped key
  rw [Migration.keyDrop, Migration.keyDrop, h.hasBackingIndex]

theorem earlyKeys : m.earlyKeys table = n.earlyKeys table := by
  rw [Migration.earlyKeys, Migration.earlyKeys, staleKeys, staleKeys, h.allow,
    (h.old.agreesOn table).keys, (h.new.agreesOn table).keys]

theorem backingIndexes : m.backingIndexes table = n.backingIndexes table := by
  rw [Migration.backingIndexes, Migration.backingIndexes, h.earlyKeys, h.hasBackingIndex]

theorem staleIndexes : m.staleIndexes table = n.staleIndexes table := by
  have hbacks : m.backsKey table = n.backsKey table := by
    funext name
    rw [backsKey, backsKey, h.dialect, (h.old.agreesOn table).keys, (h.new.agreesOn table).keys]
  rw [Migration.staleIndexes, Migration.staleIndexes, (h.old.agreesOn table).indexes,
    (h.new.agreesOn table).indexes, hbacks]

theorem earlyIndexes : m.earlyIndexes table = n.earlyIndexes table := by
  rw [Migration.earlyIndexes, Migration.earlyIndexes, h.backingIndexes, h.staleIndexes, h.allow]

theorem droppedEarly : m.droppedEarly table = n.droppedEarly table := by
  rw [Migration.droppedEarly, Migration.droppedEarly, h.backingIndexes, h.earlyIndexes]

theorem staleDrops : m.staleDrops table = n.staleDrops table := by
  rw [Migration.staleDrops, Migration.staleDrops, h.earlyKeys, h.keyDrop, h.earlyIndexes]

theorem tableDrops : m.tableDrops table = n.tableDrops table := by
  rw [Migration.tableDrops, Migration.tableDrops, h.dialect]

theorem isRedropped : m.isRedropped table = n.isRedropped table := by
  funext dropped index
  rw [Migration.isRedropped, Migration.isRedropped, (h.old.agreesOn table).indexes]

theorem changedIndexes : m.changedIndexes table = n.changedIndexes table := by
  rw [Migration.changedIndexes, Migration.changedIndexes, (h.old.agreesOn table).indexes,
    (h.new.agreesOn table).indexes]

theorem indexChanges : m.indexChanges table = n.indexChanges table := by
  rw [Migration.indexChanges, Migration.indexChanges, h.changedIndexes, h.isRedropped,
    h.droppedEarly, h.dialect]

theorem droppedBeforeKeys : m.droppedBeforeKeys table = n.droppedBeforeKeys table := by
  rw [Migration.droppedBeforeKeys, Migration.droppedBeforeKeys, h.changedIndexes, h.isRedropped,
    h.droppedEarly]

theorem tableChanges : m.tableChanges table = n.tableChanges table := by
  rw [Migration.tableChanges, Migration.tableChanges, (h.old.agreesOn table).table,
    (h.new.agreesOn table).table, h.databaseOf, h.dialect, h.allow, h.indexChanges]

theorem keyCreation : m.keyCreation table = n.keyCreation table := by
  rw [Migration.keyCreation, Migration.keyCreation, h.databaseOf, (h.new.agreesOn table).keys]

theorem keyChange : m.keyChange table = n.keyChange table := by
  have hrefers : m.refersLocally = n.refersLocally := by
    funext k
    rw [refersLocally, refersLocally, (h.new.agreesOn k.foreignTable).table, h.databaseOf]
  funext droppedKeys droppedIndexes k
  rw [Migration.keyChange, Migration.keyChange, (h.old.agreesOn table).keys, h.keyDrop, hrefers]

theorem keyChanges : m.keyChanges table = n.keyChanges table := by
  rw [Migration.keyChanges, Migration.keyChanges, h.databaseOf, (h.new.agreesOn table).keys,
    h.keyChange, h.earlyKeys, h.droppedBeforeKeys]

end Phases

/-! ## The run -/

/-- Migrations that read alike run alike when they create their new tables alike. -/
theorem run (h : m.ReadsAlike n)
    (hcreation : ∀ table ∈ m.added, m.tableCreation table = n.tableCreation table) :
    m.run = n.run := by
  have hphases : m.phases = n.phases := by
    unfold phases
    rw [List.map_congr_left hcreation, h.common, h.added, h.removed, h.allow, funext h.staleDrops,
      funext h.tableDrops, funext h.tableChanges, funext h.keyCreation, funext h.keyChanges]
  rw [Migration.run, Migration.run, hphases, h.common, h.added, h.removed]

/-- They have the same text then. -/
theorem sql (h : m.ReadsAlike n)
    (hcreation : ∀ table ∈ m.added, m.tableCreation table = n.tableCreation table) (bound : Int) :
    m.sql bound = n.sql bound := by
  rw [Migration.sql, Migration.sql, h.run hcreation, h.target]

end ReadsAlike

end Migration

end SchemaPlan
