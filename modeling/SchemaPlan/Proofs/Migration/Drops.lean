import SchemaPlan.Proofs.Migration.Run

/-!
# What a run drops and creates on a table

The drops and creations of indexes and foreign keys, phase by phase, each said in terms of the two
schemas.

* `Migration.dropIndex_mem_staleDrops`, `Migration.dropIndex_mem_indexChanges` and
  `Migration.dropIndex_mem_keyChanges` say which indexes each phase drops.
* `Migration.dropKey_mem_staleDrops` and `Migration.dropKey_mem_keyChanges` say the same of foreign
  keys.
-/
namespace SchemaPlan

namespace Migration

variable (m : Migration) {table name : String}

/-! ## Stale keys and indexes -/

/-- A foreign key is stale when the new schema does not have it as it is. -/
theorem mem_staleKeys :
    name ∈ m.staleKeys table ↔ ∃ k, (m.old.foreignKeysOf table).get? name = some k ∧
      (m.new.foreignKeysOf table).get? name ≠ some k := by
  have hnodup := (m.old.isTableMap_foreignKeysOf table).keyed.nodup
  simp only [staleKeys, List.mem_map, List.mem_filter, bne_iff_ne, Prod.exists,
    exists_and_right, exists_eq_right, Ordered.get?_eq_some_iff_mem hnodup]

/-- An index is stale when the new schema does not have it as it is and no key needs it. -/
theorem mem_staleIndexes :
    name ∈ m.staleIndexes table ↔ (∃ i, (m.old.indexesOf table).get? name = some i ∧
      (m.new.indexesOf table).get? name ≠ some i) ∧ m.backsKey table name = false := by
  have hnodup := (m.old.isTableMap_indexesOf table).keyed.nodup
  simp only [staleIndexes, List.mem_map, List.mem_filter, bne_iff_ne, Prod.exists,
    Bool.and_eq_true, Bool.not_eq_true', exists_and_right, exists_eq_right,
    Ordered.get?_eq_some_iff_mem hnodup]
  constructor
  · rintro ⟨i, hold, hnew, hbacks⟩
    exact ⟨⟨i, hold, hnew⟩, hbacks⟩
  · rintro ⟨⟨i, hold, hnew⟩, hbacks⟩
    exact ⟨i, hold, hnew, hbacks⟩

/-- A foreign key that is the same in both schemas is not stale. -/
theorem not_mem_staleKeys
    (h : (m.old.foreignKeysOf table).get? name = (m.new.foreignKeysOf table).get? name) :
    name ∉ m.staleKeys table := by
  rw [mem_staleKeys]
  rintro ⟨k, hold, hdiffers⟩
  exact hdiffers (h ▸ hold)

/-- An index that is the same in both schemas is not stale. -/
theorem not_mem_staleIndexes
    (h : (m.old.indexesOf table).get? name = (m.new.indexesOf table).get? name) :
    name ∉ m.staleIndexes table := by
  rw [mem_staleIndexes]
  rintro ⟨⟨i, hold, hdiffers⟩, -⟩
  exact hdiffers (h ▸ hold)

theorem mem_earlyKeys :
    name ∈ m.earlyKeys table ↔ m.allow.dropIndex = true ∧ name ∈ m.staleKeys table := by
  unfold earlyKeys
  split_ifs with h
  · exact ⟨fun hmem => ⟨h, hmem⟩, fun hmem => hmem.2⟩
  · exact ⟨fun hmem => absurd hmem List.not_mem_nil, fun hmem => absurd hmem.1 h⟩

theorem mem_backingIndexes :
    name ∈ m.backingIndexes table ↔
      name ∈ m.earlyKeys table ∧ m.hasBackingIndex table name = true :=
  List.mem_filter

theorem staleIndex_of_mem_earlyIndexes (h : name ∈ m.earlyIndexes table) :
    name ∈ m.staleIndexes table := by
  unfold earlyIndexes at h
  split_ifs at h
  · exact List.mem_of_mem_filter h
  · cases h

/-! ## Drops with a key -/

theorem dropIndex_mem_keyDrop {dropped : List String} {key : String} :
    .dropIndex table name ∈ m.keyDrop table dropped key ↔
      name = key ∧ m.hasBackingIndex table key = true ∧ key ∉ dropped := by
  rw [keyDrop, List.mem_cons]
  split_ifs with h
  · simp_all
  · simp_all

theorem dropKey_mem_keyDrop {dropped : List String} {key : String} :
    .alter table (.dropForeignKey name) ∈ m.keyDrop table dropped key ↔ name = key := by
  rw [keyDrop, List.mem_cons]
  split_ifs
  · simp
  · simp

/-! ## The first phase -/

theorem dropIndex_mem_staleDrops :
    .dropIndex table name ∈ m.staleDrops table ↔ name ∈ m.droppedEarly table := by
  simp only [staleDrops, droppedEarly, List.mem_append, List.mem_flatMap, List.mem_map,
    dropIndex_mem_keyDrop, mem_backingIndexes, Statement.dropIndex.injEq, true_and,
    exists_eq_right, List.not_mem_nil, not_false_eq_true, and_true]
  constructor
  · rintro (⟨key, hkey, rfl, hbacking⟩ | hearly)
    · exact Or.inl ⟨hkey, hbacking⟩
    · exact Or.inr hearly
  · rintro (⟨hkey, hbacking⟩ | hearly)
    · exact Or.inl ⟨name, hkey, rfl, hbacking⟩
    · exact Or.inr hearly

theorem dropKey_mem_staleDrops :
    .alter table (.dropForeignKey name) ∈ m.staleDrops table ↔ name ∈ m.earlyKeys table := by
  simp [staleDrops, List.mem_flatMap, dropKey_mem_keyDrop]

/-! ## The changes of indexes -/

theorem mem_changedIndexes {i : Index} :
    i ∈ m.changedIndexes table ↔ i ∈ (m.new.indexesOf table).values ∧
      (m.old.indexesOf table).get? i.name ≠ some i := by
  rw [changedIndexes, List.mem_filter, bne_iff_ne]

/-- The statements that create an index anew. -/
def recreation (table : String) (i : Index) : List Statement :=
  (if m.isRedropped table (m.droppedEarly table) i then [.dropIndex table i.name] else []) ++
    (i.creation? m.dialect).toList

theorem indexChanges_eq (table : String) :
    m.indexChanges table = (m.changedIndexes table).flatMap (m.recreation table) :=
  rfl

theorem mem_recreation {i : Index} {s : Statement} :
    s ∈ m.recreation table i ↔
      (m.isRedropped table (m.droppedEarly table) i = true ∧ s = .dropIndex table i.name) ∨
        (i.isBuildable m.dialect = true ∧ s = .createIndex i) := by
  rw [recreation, List.mem_append, Option.mem_toList, Index.creation?_eq_some_iff,
    List.mem_ite_nil_right, List.mem_singleton]

theorem dropIndex_mem_indexChanges :
    .dropIndex table name ∈ m.indexChanges table ↔ ∃ i ∈ m.changedIndexes table,
      i.name = name ∧ m.isRedropped table (m.droppedEarly table) i = true := by
  rw [indexChanges_eq, List.mem_flatMap]
  simp only [mem_recreation, Statement.dropIndex.injEq, true_and, reduceCtorEq, and_false, or_false]
  constructor
  · rintro ⟨i, hi, hredropped, rfl⟩
    exact ⟨i, hi, rfl, hredropped⟩
  · rintro ⟨i, hi, rfl, hredropped⟩
    exact ⟨i, hi, hredropped, rfl⟩

theorem createIndex_mem_indexChanges {i : Index} :
    .createIndex i ∈ m.indexChanges table ↔
      i ∈ m.changedIndexes table ∧ i.isBuildable m.dialect = true := by
  rw [indexChanges_eq, List.mem_flatMap]
  simp only [mem_recreation, Statement.createIndex.injEq, reduceCtorEq, and_false, false_or]
  constructor
  · rintro ⟨j, hj, hbuildable, rfl⟩
    exact ⟨hj, hbuildable⟩
  · rintro ⟨hi, hbuildable⟩
    exact ⟨i, hi, hbuildable, rfl⟩

/-- An old index that is changed is gone before the last phase. -/
theorem changed_mem_droppedBeforeKeys {i : Index} (hi : i ∈ m.changedIndexes table)
    (hold : (m.old.indexesOf table).has i.name = true) :
    i.name ∈ m.droppedBeforeKeys table := by
  rw [droppedBeforeKeys, List.mem_append]
  by_cases hearly : i.name ∈ m.droppedEarly table
  · exact Or.inl hearly
  · right
    apply List.mem_map_of_mem
    rw [List.mem_filter]
    refine ⟨hi, ?_⟩
    simp [isRedropped, hold, hearly]

/-- What is gone before the last phase was dropped in one of the phases before. -/
theorem mem_droppedBeforeKeys :
    name ∈ m.droppedBeforeKeys table ↔ name ∈ m.droppedEarly table ∨
      .dropIndex table name ∈ m.indexChanges table := by
  rw [droppedBeforeKeys, List.mem_append, dropIndex_mem_indexChanges, List.mem_map]
  simp only [List.mem_filter, and_assoc]
  constructor
  · rintro (hearly | ⟨i, hi, hredropped, hname⟩)
    · exact Or.inl hearly
    · exact Or.inr ⟨i, hi, hname, hredropped⟩
  · rintro (hearly | ⟨i, hi, hname, hredropped⟩)
    · exact Or.inl hearly
    · exact Or.inr ⟨i, hi, hredropped, hname⟩

/-! ## The changes of keys -/

theorem mem_keyChange {dropped gone : List String} {k : ForeignKey} {s : Statement} :
    s ∈ m.keyChange table dropped gone k ↔
      (m.old.foreignKeysOf table).get? k.name ≠ some k ∧
        (((m.old.foreignKeysOf table).has k.name = true ∧ k.name ∉ dropped ∧
            s ∈ m.keyDrop table gone k.name) ∨
          (m.refersLocally k = true ∧ s = .alter table (.addForeignKey k))) := by
  unfold keyChange
  by_cases hsame : (m.old.foreignKeysOf table).get? k.name = some k
  · simp [hsame]
  · simp only [hsame, if_false, List.mem_append, not_false_eq_true, true_and, Bool.and_eq_true,
      Bool.not_eq_true', List.contains_eq_mem, decide_eq_false_iff_not, List.mem_ite_nil_right,
      List.mem_singleton, ne_eq, Ordered.has, and_assoc]

/-- The statements of the last phase on a table that stays in the database. -/
theorem mem_keyChanges {s : Statement} (hlocal : m.databaseOf table = none) :
    s ∈ m.keyChanges table ↔ ∃ k ∈ (m.new.foreignKeysOf table).values,
      s ∈ m.keyChange table (m.earlyKeys table) (m.droppedBeforeKeys table) k := by
  rw [keyChanges, hlocal, if_neg (by simp), List.mem_flatMap]

/-- A key that the new schema has differently is dropped in the last phase unless it is gone. -/
theorem dropKey_mem_keyChanges (hlocal : m.databaseOf table = none) :
    .alter table (.dropForeignKey name) ∈ m.keyChanges table ↔
      name ∈ m.staleKeys table ∧ (m.new.foreignKeysOf table).has name = true ∧
        name ∉ m.earlyKeys table := by
  have hnew := (m.new.isTableMap_foreignKeysOf table).keyed
  rw [m.mem_keyChanges hlocal, mem_staleKeys, Ordered.has_iff_get?_eq_some]
  simp only [mem_keyChange, dropKey_mem_keyDrop, Statement.alter.injEq, reduceCtorEq, and_false,
    or_false, Ordered.has_iff_get?_eq_some]
  constructor
  · rintro ⟨k, hk, hdiffers, ⟨old, hold⟩, hearly, rfl⟩
    have hfound := hnew.get?_name hk
    refine ⟨⟨old, hold, ?_⟩, ⟨k, hfound⟩, hearly⟩
    rw [hfound]
    rintro h
    cases h
    exact hdiffers hold
  · rintro ⟨⟨old, hold, hdiffers⟩, ⟨k, hfound⟩, hearly⟩
    obtain ⟨hk, rfl⟩ := (hnew.get?_eq_some_iff name k).mp hfound
    refine ⟨k, hk, ?_, ⟨old, hold⟩, hearly, rfl⟩
    rw [hold]
    rintro h
    cases h
    exact hdiffers hfound

/-- Along with the keys of the last phase their indexes are dropped unless they are gone. -/
theorem dropIndex_mem_keyChanges (hlocal : m.databaseOf table = none) :
    .dropIndex table name ∈ m.keyChanges table ↔
      .alter table (.dropForeignKey name) ∈ m.keyChanges table ∧
        m.hasBackingIndex table name = true ∧ name ∉ m.droppedBeforeKeys table := by
  simp only [m.mem_keyChanges hlocal, mem_keyChange, dropIndex_mem_keyDrop, dropKey_mem_keyDrop,
    Statement.alter.injEq, reduceCtorEq, and_false, or_false]
  constructor
  · rintro ⟨k, hk, hdiffers, hold, hearly, rfl, hbacking, hgone⟩
    exact ⟨⟨k, hk, hdiffers, hold, hearly, rfl⟩, hbacking, hgone⟩
  · rintro ⟨⟨k, hk, hdiffers, hold, hearly, rfl⟩, hbacking, hgone⟩
    exact ⟨k, hk, hdiffers, hold, hearly, rfl, hbacking, hgone⟩

end Migration

end SchemaPlan
