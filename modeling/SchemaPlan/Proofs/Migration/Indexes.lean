import SchemaPlan.Proofs.Catalog
import SchemaPlan.Proofs.Migration.Drops

/-!
# The indexes after a run

The drops and creations of indexes in a run, replayed over the indexes that the database has
before.  An index of the new schema that is new or changed is created, and nothing drops it
afterwards.  One that stays as it is stays, unless a foreign key of its name is dropped on the
dialect that backs foreign keys with indexes: the index goes with the key, and nothing brings it
back.

* `Migration.dropIndex_mem_run` says which indexes a run drops on a table.
* `Migration.indexesAfter_of_changed` says that a new or changed index is there in the end; the
  section on the end says exactly which of the others are.
-/
namespace SchemaPlan

/-- A drop or a creation of an index as an event. -/
def Statement.indexEvent? : Statement → Option (Event Index)
  | createIndex i => some (.put i.table i.name i)
  | dropIndex table name => some (.erase table name)
  | _ => none

theorem Statement.indexEvent?_eq_some {s : Statement} {e : Event Index}
    (h : s.indexEvent? = some e) :
    (∃ i, s = .createIndex i ∧ e = .put i.table i.name i) ∨
      (∃ table name, s = .dropIndex table name ∧ e = .erase table name) := by
  unfold indexEvent? at h
  split at h
  · cases h
    exact Or.inl ⟨_, rfl, rfl⟩
  · cases h
    exact Or.inr ⟨_, _, rfl, rfl⟩
  · cases h

theorem Statement.indexEvent?_subject (s : Statement) (e : Event Index)
    (h : s.indexEvent? = some e) : e.table = s.subject := by
  rcases indexEvent?_eq_some h with ⟨i, rfl, rfl⟩ | ⟨table, name, rfl, rfl⟩
  · rfl
  · rfl

theorem put_mem_indexEvents {statements : List Statement} {table name : String} {i : Index} :
    .put table name i ∈ statements.filterMap Statement.indexEvent? ↔
      .createIndex i ∈ statements ∧ i.table = table ∧ i.name = name := by
  rw [List.mem_filterMap]
  constructor
  · rintro ⟨s, hs, hevent⟩
    rcases Statement.indexEvent?_eq_some hevent with ⟨j, rfl, h⟩ | ⟨_, _, rfl, h⟩
    · cases h
      exact ⟨hs, rfl, rfl⟩
    · cases h
  · rintro ⟨hs, rfl, rfl⟩
    exact ⟨_, hs, rfl⟩

theorem erase_mem_indexEvents {statements : List Statement} {table name : String} :
    .erase table name ∈ statements.filterMap Statement.indexEvent? ↔
      .dropIndex table name ∈ statements := by
  rw [List.mem_filterMap]
  constructor
  · rintro ⟨s, hs, hevent⟩
    rcases Statement.indexEvent?_eq_some hevent with ⟨j, rfl, h⟩ | ⟨_, _, rfl, h⟩
    · cases h
    · cases h
      exact hs
  · intro hs
    exact ⟨_, hs, rfl⟩

namespace Migration

variable (m : Migration) {table name : String} {statements : List Statement} {i : Index}

/-! ## What a run drops -/

/-- A foreign key of a common table is dropped when the new schema does not have it as it is, and
either stale keys may be dropped or the new schema has another key of that name. -/
def DropsKey (table name : String) : Prop :=
  (∃ k, (m.old.foreignKeysOf table).get? name = some k ∧
      (m.new.foreignKeysOf table).get? name ≠ some k) ∧
    (m.allow.dropIndex = true ∨ (m.new.foreignKeysOf table).has name = true)

theorem createIndex_not_mem_keyDrop {gone : List String} {key : String} :
    .createIndex i ∉ m.keyDrop table gone key := by
  simp only [keyDrop, List.mem_cons, List.mem_ite_nil_right, reduceCtorEq, and_false,
    List.not_mem_nil, or_self, not_false_eq_true]

theorem createIndex_not_mem_staleDrops : .createIndex i ∉ m.staleDrops table := by
  simp only [staleDrops, List.mem_append, List.mem_flatMap, createIndex_not_mem_keyDrop,
    List.mem_map, reduceCtorEq, and_false, exists_const, or_self, not_false_eq_true]

theorem createIndex_not_mem_keyChanges (hlocal : m.databaseOf table = none) :
    .createIndex i ∉ m.keyChanges table := by
  rw [m.mem_keyChanges hlocal]
  rintro ⟨k, -, h⟩
  simp only [mem_keyChange, createIndex_not_mem_keyDrop, reduceCtorEq, and_false, or_self] at h

/-- The indexes that a run drops on a common table that stays in the database. -/
theorem dropIndex_mem_run (h : m.run.outcome = .ok statements) (hcommon : table ∈ m.common)
    (hlocal : m.databaseOf table = none) :
    .dropIndex table name ∈ thoseAbout table statements ↔
      name ∈ m.droppedEarly table ∨ .dropIndex table name ∈ m.indexChanges table ∨
        .dropIndex table name ∈ m.keyChanges table := by
  obtain ⟨shape, hshape, heq⟩ := m.thoseAbout_local h hcommon hlocal
  have hnot : .dropIndex table name ∉ shape := fun hmem => (hshape _ hmem).1 rfl
  rw [heq, List.mem_append, List.mem_append, List.mem_append, or_iff_right hnot,
    dropIndex_mem_staleDrops, or_assoc]

/-! ## Indexes that stay as they are -/

/-- An index that stays as it is is lost when a foreign key of its name is dropped on the dialect
that backs foreign keys with indexes. -/
def LosesIndex (table : String) (i : Index) : Prop :=
  m.dialect = .mysql ∧ (m.old.indexesOf table).get? i.name = some i ∧ m.DropsKey table i.name

theorem not_mem_changedIndexes (hnew : i ∈ (m.new.indexesOf table).values)
    (hold : (m.old.indexesOf table).get? i.name = some i) {j : Index}
    (hj : j ∈ m.changedIndexes table) : j.name ≠ i.name := by
  intro hname
  have hkeyed := (m.new.isTableMap_indexesOf table).keyed
  obtain ⟨hvalue, hdiffers⟩ := (m.mem_changedIndexes).mp hj
  have hi := hkeyed.get?_name hnew
  rw [← hname, hkeyed.get?_name hvalue] at hi
  cases hi
  exact hdiffers hold

/-- An index that stays as it is is dropped only along with a foreign key of its name. -/
theorem dropIndex_mem_run_of_same (h : m.run.outcome = .ok statements)
    (hcommon : table ∈ m.common) (hlocal : m.databaseOf table = none)
    (hnew : i ∈ (m.new.indexesOf table).values)
    (hold : (m.old.indexesOf table).get? i.name = some i) :
    .dropIndex table i.name ∈ thoseAbout table statements ↔ m.LosesIndex table i := by
  have hfound := (m.new.isTableMap_indexesOf table).keyed.get?_name hnew
  have hstale : i.name ∉ m.staleIndexes table := m.not_mem_staleIndexes (hold.trans hfound.symm)
  have hchanges : .dropIndex table i.name ∉ m.indexChanges table := by
    rw [dropIndex_mem_indexChanges]
    rintro ⟨j, hj, hname, -⟩
    exact m.not_mem_changedIndexes hnew hold hj hname
  have hbacking : m.hasBackingIndex table i.name = true ↔ m.dialect = .mysql := by
    simp [hasBackingIndex, Ordered.has, hold]
  -- What is dropped early are the indexes of the keys that are dropped early.
  have hearly : i.name ∈ m.droppedEarly table ↔
      i.name ∈ m.earlyKeys table ∧ m.dialect = .mysql := by
    rw [droppedEarly, List.mem_append, mem_backingIndexes, hbacking]
    exact or_iff_left fun hmem => hstale (m.staleIndex_of_mem_earlyIndexes hmem)
  rw [m.dropIndex_mem_run h hcommon hlocal, or_iff_right hchanges,
    m.dropIndex_mem_keyChanges hlocal, mem_droppedBeforeKeys, or_iff_left hchanges,
    m.dropKey_mem_keyChanges hlocal, hbacking, hearly, mem_earlyKeys, LosesIndex, DropsKey,
    ← mem_staleKeys]
  simp only [hold, true_and]
  constructor
  · rintro (⟨⟨hallow, hkey⟩, hmysql⟩ | ⟨⟨hkey, hhas, -⟩, hmysql, -⟩)
    · exact ⟨hmysql, hkey, Or.inl hallow⟩
    · exact ⟨hmysql, hkey, Or.inr hhas⟩
  · -- The key is dropped in the first phase if that is allowed, else in the last one.
    rintro ⟨hmysql, hkey, hreason⟩
    by_cases hallow : m.allow.dropIndex = true
    · exact Or.inl ⟨⟨hallow, hkey⟩, hmysql⟩
    · have hhas := hreason.resolve_left hallow
      exact Or.inr ⟨⟨hkey, hhas, fun h => hallow h.1⟩, hmysql, fun h => hallow h.1.1⟩

/-! ## The indexes in the end -/

/-- The indexes that the database has before: those of the old schema that the dialect can
build. -/
def builtIndexes : Catalog Index := fun table name =>
  ((m.old.indexesOf table).get? name).filter fun i => i.isBuildable m.dialect

/-- The indexes that the database has after these statements. -/
def indexesAfter (statements : List Statement) : Catalog Index :=
  m.builtIndexes.replay (statements.filterMap Statement.indexEvent?)

theorem indexesAfter_eq (statements : List Statement) :
    m.indexesAfter statements table name =
      m.builtIndexes.replay ((thoseAbout table statements).filterMap Statement.indexEvent?)
        table name :=
  Catalog.replay_thoseAbout _ _ Statement.indexEvent?_subject statements

/-- An index that is new or changed is created, and nothing touches it afterwards. -/
theorem indexesAfter_of_changed (h : m.run.outcome = .ok statements)
    (hcommon : table ∈ m.common) (hlocal : m.databaseOf table = none)
    (hi : i ∈ m.changedIndexes table) (hbuildable : i.isBuildable m.dialect = true) :
    m.indexesAfter statements table i.name = some i := by
  have hkeyed := (m.new.isTableMap_indexesOf table).keyed
  have hvalue := ((m.mem_changedIndexes).mp hi).1
  have htable : i.table = table := (m.new.isTableMap_indexesOf table).belongs i hvalue
  have hnodup : ((m.changedIndexes table).map Index.name).Nodup :=
    hkeyed.nodup_names.sublist (List.filter_sublist.map Index.name)
  have hown : ∀ j ∈ m.changedIndexes table,
      ∀ e ∈ (m.recreation table j).filterMap Statement.indexEvent?, e.name = j.name := by
    intro j _ e he
    obtain ⟨s, hs, hevent⟩ := List.mem_filterMap.mp he
    rcases (m.mem_recreation).mp hs with ⟨-, rfl⟩ | ⟨-, rfl⟩
    · cases hevent
      rfl
    · cases hevent
      rfl
  -- The last phase drops only indexes that are still there, and this one is gone before.
  have hafter : ∀ e ∈ (m.keyChanges table).filterMap Statement.indexEvent?,
      ¬ (e.table = table ∧ e.name = i.name) := by
    intro e he
    obtain ⟨s, hs, hevent⟩ := List.mem_filterMap.mp he
    rcases Statement.indexEvent?_eq_some hevent with ⟨j, rfl, rfl⟩ | ⟨_, _, rfl, rfl⟩
    · exact absurd hs (m.createIndex_not_mem_keyChanges hlocal)
    · rintro ⟨rfl, rfl⟩
      obtain ⟨-, hbacking, hgone⟩ := (m.dropIndex_mem_keyChanges hlocal).mp hs
      refine hgone (m.changed_mem_droppedBeforeKeys hi ?_)
      exact (Bool.and_eq_true_iff.mp hbacking).2
  have hcreation : i.creation? m.dialect = some (.createIndex i) :=
    Index.creation?_eq_some_iff.mpr ⟨hbuildable, rfl⟩
  obtain ⟨shape, -, heq⟩ := m.thoseAbout_local h hcommon hlocal
  rw [indexesAfter_eq, heq, List.filterMap_append, List.filterMap_append, List.filterMap_append,
    Catalog.replay_append, Catalog.replay_of_untouched _ _ hafter, Catalog.replay_append,
    Catalog.replay_append, indexChanges_eq, List.filterMap_flatMap,
    Catalog.replay_flatMap _ hnodup hown hi, recreation, hcreation, List.filterMap_append]
  rw [show (some (Statement.createIndex i)).toList.filterMap Statement.indexEvent? =
    [.put table i.name i] by rw [← htable]; rfl]
  exact Catalog.replay_put _ _ [] i (by simp)

/-- **The indexes after a run.**  On a common table that stays in the database the run leaves each
index of the new schema that the dialect can build, except those that it loses along with a
foreign key of their name. -/
theorem index_after_run (h : m.run.outcome = .ok statements) (hcommon : table ∈ m.common)
    (hlocal : m.databaseOf table = none) (hi : i ∈ (m.new.indexesOf table).values)
    (hbuildable : i.isBuildable m.dialect = true) :
    m.indexesAfter statements table i.name = some i ↔ ¬ m.LosesIndex table i := by
  by_cases hold : (m.old.indexesOf table).get? i.name = some i
  · have hput : ∀ j, .put table i.name j ∉
        (thoseAbout table statements).filterMap Statement.indexEvent? := by
      intro j hj
      obtain ⟨hmem, -, hname⟩ := put_mem_indexEvents.mp hj
      obtain ⟨shape, hshape, heq⟩ := m.thoseAbout_local h hcommon hlocal
      rw [heq, List.mem_append, List.mem_append, List.mem_append] at hmem
      rcases hmem with (hmem | hmem | hmem) | hmem
      · exact m.createIndex_not_mem_staleDrops hmem
      · exact (hshape _ hmem).1 rfl
      · have hchanged := ((m.createIndex_mem_indexChanges).mp hmem).1
        exact m.not_mem_changedIndexes hi hold hchanged hname
      · exact m.createIndex_not_mem_keyChanges hlocal hmem
    have hdrop := m.dropIndex_mem_run_of_same h hcommon hlocal hi hold
    rw [indexesAfter_eq]
    by_cases hloses : m.LosesIndex table i
    · rw [Catalog.replay_of_erased _ _ hput (erase_mem_indexEvents.mpr (hdrop.mpr hloses))]
      simp [hloses]
    · have hkept := fun hmem => hloses (hdrop.mp (erase_mem_indexEvents.mp hmem))
      rw [Catalog.replay_of_kept _ _ hput hkept, builtIndexes, hold]
      simp [hloses, hbuildable]
  · have hchanged : i ∈ m.changedIndexes table := (m.mem_changedIndexes).mpr ⟨hi, hold⟩
    rw [m.indexesAfter_of_changed h hcommon hlocal hchanged hbuildable]
    simp [LosesIndex, hold]

/-! ## A key that takes an index with it -/

/-- A table loses a foreign key and keeps an index of the same name, while another index
changes. -/
def keyRemoval : Migration where
  old := ⟨[.table ⟨"t", [], none, none⟩, .index ⟨"k", "t", ["a"], false, false⟩,
    .index ⟨"j", "t", ["b"], false, false⟩, .foreignKey ⟨"k", "t", "p", [⟨"a", "id"⟩]⟩]⟩
  new := ⟨[.table ⟨"t", [], none, none⟩, .index ⟨"k", "t", ["a"], false, false⟩,
    .index ⟨"j", "t", ["b"], true, false⟩]⟩
  deployment := ⟨⟨.mysql, ""⟩, none, none, .empty⟩
  allow := ⟨false, false, true⟩

/-- The statements of `keyRemoval`. -/
def keyRemovalStatements : List Statement :=
  [.alter "t" (.dropForeignKey "k"), .dropIndex "t" "k", .dropIndex "t" "j",
    .createIndex ⟨"j", "t", ["b"], true, false⟩]

/-- The changed index of `keyRemoval` is there in the end. -/
theorem changed_index_after_keyRemoval :
    keyRemoval.run.outcome = .ok keyRemovalStatements ∧
      keyRemoval.indexesAfter keyRemovalStatements "t" "j" =
        some ⟨"j", "t", ["b"], true, false⟩ := by
  have hrun : keyRemoval.run.outcome = .ok keyRemovalStatements := rfl
  have hcommon : "t" ∈ keyRemoval.common := by decide
  have hj : ⟨"j", "t", ["b"], true, false⟩ ∈ (keyRemoval.new.indexesOf "t").values := by decide
  refine ⟨hrun, (keyRemoval.index_after_run hrun hcommon rfl hj rfl).mpr ?_⟩
  rintro ⟨-, hsame, -⟩
  exact absurd hsame (by decide)

/-- The unchanged index of `keyRemoval` is not: it goes with the foreign key. -/
theorem unchanged_index_lost_by_keyRemoval :
    keyRemoval.run.outcome = .ok keyRemovalStatements ∧ "t" ∈ keyRemoval.common ∧
      keyRemoval.databaseOf "t" = none ∧
      ⟨"k", "t", ["a"], false, false⟩ ∈ (keyRemoval.new.indexesOf "t").values ∧
      Index.isBuildable ⟨"k", "t", ["a"], false, false⟩ keyRemoval.dialect = true ∧
      keyRemoval.indexesAfter keyRemovalStatements "t" "k" = none :=
  ⟨rfl, by decide, rfl, by decide, rfl, by decide⟩

end Migration

end SchemaPlan
