import SchemaPlan.Proofs.Migration.DropsOnce
import SchemaPlan.Proofs.Migration.Indexes

/-!
# Drops of indexes that were never built

One dialect has no indexes of full texts: it skips them where a schema is created.  Where indexes
are dropped nobody asks what kind of index it was.

* `Schema.exists_createsIndex_iff` says which indexes of a table the creation of a schema builds.
* `Migration.dropIndex_mem_run_iff_of_pgsql` says when a run drops an old index on that dialect.
* `Migration.drops_are_built_iff` says when all indexes that a run drops were built.
-/
namespace SchemaPlan

/-! ## What a creation builds -/

/-- An index that a dialect cannot build is one of full texts, on the dialect that has none. -/
theorem Index.isBuildable_eq_false_iff {i : Index} {d : Dialect} :
    i.isBuildable d = false ↔ i.fulltext = true ∧ d = .pgsql := by
  cases d with
  | mysql => simp [Index.isBuildable]
  | pgsql => simp [Index.isBuildable]

/-- The indexes that a table is created with, inside of it or after it. -/
theorem Table.exists_createsIndex_iff {t : Table} {indexes : List Index} {d : Dialect}
    {l : List Statement} {name : String} (hown : ∀ i ∈ indexes, i.table = t.name)
    (h : t.creation indexes d = .ok l) :
    (∃ x ∈ l, x.CreatesIndex t.name name) ↔
      ∃ i ∈ indexes, i.name = name ∧ i.isBuildable d = true := by
  unfold Table.creation at h
  rw [bind_eq_ok_iff] at h
  obtain ⟨columns, -, h⟩ := h
  cases h
  have hclearing : Each (fun x => ¬ x.CreatesIndex t.name name) (t.clearing d) :=
    .append (.cons id (.singleton id)) (.ite (.cons id (.singleton id)) .nil)
  have hrest : ∀ rest : List Statement,
      (∃ x ∈ t.clearing d ++ rest, x.CreatesIndex t.name name) ↔
        ∃ x ∈ rest, x.CreatesIndex t.name name := by
    intro rest
    simp only [List.mem_append, or_and_right, exists_or]
    exact or_iff_right fun ⟨x, hx, hcreates⟩ => hclearing x hx hcreates
  rw [hrest, List.exists_mem_cons_iff]
  cases d with
  | mysql =>
    -- The indexes are inside of the statement that creates the table.
    simp [Statement.CreatesIndex, Index.isBuildable]
  | pgsql =>
    have hinside :
        ¬ Statement.CreatesIndex t.name name (.createTable t.name columns t.primaryKey []) := by
      rintro ⟨-, i, hi, -⟩
      cases hi
    rw [or_iff_right hinside]
    constructor
    · rintro ⟨x, hx, hcreates⟩
      obtain ⟨i, hi, hcreation⟩ := List.mem_filterMap.mp hx
      obtain ⟨hbuildable, rfl⟩ := Index.creation?_eq_some_iff.mp hcreation
      exact ⟨i, hi, hcreates.2, hbuildable⟩
    · rintro ⟨i, hi, hname, hbuildable⟩
      have hcreation : i.creation? .pgsql = some (.createIndex i) :=
        Index.creation?_eq_some_iff.mpr ⟨hbuildable, rfl⟩
      exact ⟨_, List.mem_filterMap.mpr ⟨i, hi, hcreation⟩, hown i hi, hname⟩

namespace Schema

variable {s : Schema} {d : Deployment} {table name : String} {l : List Statement}

/-- Only tables and their indexes contribute indexes. -/
theorem createsIndex_of_mem_creation (h : (s.creation d).outcome = .ok l) {x : Statement}
    (hx : x ∈ l) (hcreates : x.CreatesIndex table name) :
    ∃ e ∈ s.entities, (s.tableStatements d e).outcome = .ok (s.tableStatements d e).resultOrNil ∧
      x ∈ (s.tableStatements d e).resultOrNil := by
  obtain ⟨htables, hkeys, hseeds, rfl⟩ := creation_eq_ok_iff.mp h
  simp only [List.mem_append, List.mem_flatMap] at hx
  rcases hx with (⟨e, he, hx⟩ | ⟨e, he, hx⟩) | ⟨e, he, hx⟩
  · exact ⟨e, he, htables e he, hx⟩
  · rcases keyStatements_cases (hkeys e he) with ⟨k, -, -, heq⟩ | heq
    · rw [heq, List.mem_singleton] at hx
      rw [hx] at hcreates
      cases hcreates
    · rw [heq] at hx
      cases hx
  · have hkind := (rows_seedStatements (hseeds e he) x hx).2
    rcases hcreates.subject.2 with h | h
    · rw [hkind] at h
      cases h
    · rw [hkind] at h
      cases h

/-- The creation of a schema builds the indexes of a local table that the dialect can build. -/
theorem exists_createsIndex_iff (hthere : (s.table? table).isSome)
    (hlocal : s.mappedDatabase d.mapping table = none) (h : (s.creation d).outcome = .ok l) :
    (∃ x ∈ l, x.CreatesIndex table name) ↔
      ∃ i, (s.indexesOf table).get? name = some i ∧ i.isBuildable d.target.dialect = true := by
  have hmap := s.isTableMap_indexesOf table
  have hiff : ∀ {t : Table} {part : List Statement}, t.name = table →
      t.creation (s.indexesOf t.name).values d.target.dialect = .ok part →
      ((∃ x ∈ part, x.CreatesIndex table name) ↔
        ∃ i, (s.indexesOf table).get? name = some i ∧ i.isBuildable d.target.dialect = true) := by
    rintro t part rfl hpart
    rw [Table.exists_createsIndex_iff hmap.belongs hpart]
    simp only [hmap.keyed.get?_eq_some_iff, and_assoc]
  constructor
  · rintro ⟨x, hx, hcreates⟩
    obtain ⟨e, -, hok, hmem⟩ := createsIndex_of_mem_creation h hx hcreates
    rcases tableStatements_cases hok with ⟨t, database, -, -, heq⟩ | ⟨t, -, -, hcreation⟩ |
      ⟨i, -, hnone, heq⟩ | ⟨-, heq⟩
    · rw [heq] at hmem
      have hview : Each (fun x => ¬ x.CreatesIndex table name) (viewStatements t.name database) :=
        .cons id (.singleton id)
      exact absurd hcreates (hview x hmem)
    · have hsubject :=
        (Table.plain_creation (s.isTableMap_indexesOf t.name).belongs hcreation x hmem).1
      exact (hiff (hsubject.symm.trans hcreates.subject.1) hcreation).mp ⟨x, hmem, hcreates⟩
    · rw [heq, Option.mem_toList] at hmem
      have hsubject := (subject_of_creation? hmem).1
      rw [← hsubject, hcreates.subject.1] at hnone
      rw [hnone] at hthere
      cases hthere
    · rw [heq] at hmem
      cases hmem
  · intro hbuilt
    obtain ⟨htables, -, -, rfl⟩ := creation_eq_ok_iff.mp h
    obtain ⟨t, ht⟩ := Option.isSome_iff_exists.mp hthere
    obtain ⟨hname, hentity⟩ := s.table?_eq_some ht
    -- The table that counts is written as a table.
    have hmapped : SchemaPlan.mappedDatabase d.mapping t.group t.name = none := by
      rw [mappedDatabase, ht] at hlocal
      exact hlocal
    have hcreation := htables _ hentity
    simp only [tableStatements, hmapped, Noted.outcome_ofExcept] at hcreation
    obtain ⟨x, hx, hcreates⟩ := (hiff hname hcreation).mpr hbuilt
    refine ⟨x, ?_, hcreates⟩
    refine List.mem_append_left _ (List.mem_append_left _ (List.mem_flatMap.mpr ⟨_, hentity, ?_⟩))
    simpa only [tableStatements, hmapped] using hx

end Schema

namespace Migration

variable (m : Migration) {table name : String} {statements : List Statement} {i : Index}

/-! ## What a run drops -/

/-- A run drops only indexes that the old schema has. -/
theorem old_index_of_dropIndex (h : m.run.outcome = .ok statements)
    (hdrop : .dropIndex table name ∈ statements) :
    ∃ i, (m.old.indexesOf table).get? name = some i := by
  have hhas : (m.old.indexesOf table).has name = true := by
    obtain ⟨-, hearly | ⟨hlocal, hchange | hkey⟩⟩ := (m.run_drops_index_iff h).mp hdrop
    · rcases List.mem_append.mp hearly with hbacking | hearly
      · exact (Bool.and_eq_true_iff.mp ((m.mem_backingIndexes).mp hbacking).2).2
      · obtain ⟨⟨i, hold, -⟩, -⟩ :=
        (m.mem_staleIndexes).mp (m.staleIndex_of_mem_earlyIndexes hearly)
        exact (Ordered.has_iff_get?_eq_some _ _).mpr ⟨i, hold⟩
    · obtain ⟨i, -, rfl, hredropped⟩ := (m.dropIndex_mem_indexChanges).mp hchange
      exact (Bool.and_eq_true_iff.mp hredropped).1
    · obtain ⟨-, hbacking, -⟩ := (m.dropIndex_mem_keyChanges hlocal).mp hkey
      exact (Bool.and_eq_true_iff.mp hbacking).2
  exact (Ordered.has_iff_get?_eq_some _ _).mp hhas

/-- What goes early are the indexes of the keys that do, and the stale ones if that is allowed. -/
theorem mem_droppedEarly :
    name ∈ m.droppedEarly table ↔ name ∈ m.backingIndexes table ∨
      (m.allow.dropIndex = true ∧ name ∈ m.staleIndexes table) := by
  rw [droppedEarly, List.mem_append, earlyIndexes]
  by_cases hbacking : name ∈ m.backingIndexes table
  · simp only [hbacking, true_or]
  · simp [hbacking]

/-- Of an old index the new schema has another version exactly when it has that name differently. -/
theorem redeclares_iff (hold : (m.old.indexesOf table).get? name = some i) :
    (m.new.indexesOf table).Redeclares (m.old.indexesOf table) name ↔
      (m.new.indexesOf table).get? name ≠ some i ∧ (m.new.indexesOf table).has name = true := by
  rw [Ordered.has_iff_get?_eq_some]
  constructor
  · rintro ⟨a, b, ha, hb, hne⟩
    rw [hold] at ha
    cases ha
    rw [hb]
    exact ⟨fun hsame => hne (Option.some.inj hsame).symm, b, rfl⟩
  · rintro ⟨hdiffers, b, hb⟩
    refine ⟨i, b, hold, hb, ?_⟩
    rintro rfl
    exact hdiffers hb

/-- The new schema has the index differently, or has it not and it may be dropped. -/
def ReplacesIndex (table : String) (i : Index) : Prop :=
  (m.new.indexesOf table).get? i.name ≠ some i ∧
    (m.allow.dropIndex = true ∨ (m.new.indexesOf table).has i.name = true)

/-- On the dialect that does not back keys with indexes a run drops an old index exactly when it is
replaced. -/
theorem dropIndex_mem_run_iff_of_pgsql (h : m.run.outcome = .ok statements)
    (hpgsql : m.dialect = .pgsql) (hcommon : table ∈ m.common) (hlocal : m.databaseOf table = none)
    (hold : (m.old.indexesOf table).get? i.name = some i) :
    .dropIndex table i.name ∈ statements ↔ m.ReplacesIndex table i := by
  have hnoBacking : m.hasBackingIndex table i.name = false := by
    rw [hasBackingIndex, hpgsql]
    rfl
  have hnoKey : m.backsKey table i.name = false := by
    rw [backsKey, hpgsql]
    rfl
  have hearly : i.name ∈ m.droppedEarly table ↔
      m.allow.dropIndex = true ∧ (m.new.indexesOf table).get? i.name ≠ some i := by
    rw [mem_droppedEarly, mem_backingIndexes, hnoBacking, mem_staleIndexes, hnoKey, hold]
    simp
  rw [m.run_drops_index_iff h, m.dropIndex_mem_keyChanges hlocal, hnoBacking, hearly, ReplacesIndex]
  simp only [hcommon, hlocal, true_and, Bool.false_eq_true, false_and, and_false, or_false]
  cases hallow : m.allow.dropIndex with
  | true =>
    simp only [true_and, true_or, and_true]
    refine or_iff_left_of_imp fun hchange => ?_
    exact ((m.redeclares_iff hold).mp (m.redeclares_of_indexChange hchange)).1
  | false =>
    simp only [Bool.false_eq_true, false_and, false_or]
    rw [m.dropIndex_mem_indexChanges_iff_redeclares hallow, m.redeclares_iff hold]

/-! ## Drops of what was built -/

/-- **Drops of indexes that were built.**  On a common table that stays in the database each index
that a run drops was built, unless an index of full texts is replaced on the dialect that has none.
What was built is what the creation of the old schema builds. -/
theorem drops_are_built_iff (h : m.run.outcome = .ok statements) (hcommon : table ∈ m.common)
    (hold : m.old.mappedDatabase m.deployment.mapping table = none)
    (hnew : m.databaseOf table = none) :
    ((∀ name, .dropIndex table name ∈ statements → (m.builtIndexes table name).isSome) ↔
      ∀ i ∈ (m.old.indexesOf table).values, i.fulltext = true → m.dialect = .pgsql →
        ¬ m.ReplacesIndex table i) ∧
    ∀ l, (m.old.creation m.deployment).outcome = .ok l →
      ∀ name, (m.builtIndexes table name).isSome ↔ ∃ x ∈ l, x.CreatesIndex table name := by
  have hkeyed := (m.old.isTableMap_indexesOf table).keyed
  refine ⟨⟨fun hbuilt i hi hfulltext hpgsql hreplaced => ?_, fun hkept name hdrop => ?_⟩,
    fun l hcreation name => ?_⟩
  · have hfound := hkeyed.get?_name hi
    have hdrop := (m.dropIndex_mem_run_iff_of_pgsql h hpgsql hcommon hnew hfound).mpr hreplaced
    have hthere := hbuilt i.name hdrop
    have hnot : i.isBuildable m.dialect = false :=
      Index.isBuildable_eq_false_iff.mpr ⟨hfulltext, hpgsql⟩
    rw [builtIndexes, hfound, Option.filter_some, hnot] at hthere
    cases hthere
  · obtain ⟨i, hfound⟩ := m.old_index_of_dropIndex h hdrop
    obtain ⟨hi, rfl⟩ := (hkeyed.get?_eq_some_iff name i).mp hfound
    have hbuildable : i.isBuildable m.dialect = true := by
      by_contra hnot
      rw [Bool.not_eq_true, Index.isBuildable_eq_false_iff] at hnot
      obtain ⟨hfulltext, hpgsql⟩ := hnot
      exact hkept i hi hfulltext hpgsql
        ((m.dropIndex_mem_run_iff_of_pgsql h hpgsql hcommon hnew hfound).mp hdrop)
    rw [builtIndexes, hfound, Option.filter_some, hbuildable]
    rfl
  · rw [Schema.exists_createsIndex_iff ((m.mem_common).mp hcommon).1 hold hcreation, builtIndexes,
      Option.isSome_filter]
    exact Option.any_eq_true _ _

/-! ## An index of full texts that becomes a plain one -/

/-- An index of a table becomes one of full texts, or stops to be one; another one stays such an
index. -/
def fulltextChange (old new : Bool) : Migration where
  old := ⟨[.table ⟨"t", [integerColumn "a"], none, none⟩, .index ⟨"i", "t", ["a"], false, old⟩,
    .index ⟨"j", "t", ["a"], false, true⟩]⟩
  new := ⟨[.table ⟨"t", [integerColumn "a"], none, none⟩, .index ⟨"i", "t", ["a"], false, new⟩,
    .index ⟨"j", "t", ["a"], false, true⟩]⟩
  deployment := ⟨⟨.pgsql, ""⟩, none, none, .empty⟩
  allow := ⟨false, false, false⟩

/-- An index that becomes one of full texts was built and is dropped. -/
theorem built_index_dropped_by_fulltextChange :
    (fulltextChange false true).run.outcome = .ok [.dropIndex "t" "i"] ∧
      "t" ∈ (fulltextChange false true).common ∧
      ∀ name, .dropIndex "t" name ∈ [Statement.dropIndex "t" "i"] →
        ((fulltextChange false true).builtIndexes "t" name).isSome := by
  have hrun : (fulltextChange false true).run.outcome = .ok [.dropIndex "t" "i"] := rfl
  have hcommon : "t" ∈ (fulltextChange false true).common := by decide
  refine ⟨hrun, hcommon,
    ((fulltextChange false true).drops_are_built_iff hrun hcommon rfl rfl).1.mpr ?_⟩
  rintro i hi hfulltext - ⟨hdiffers, -⟩
  have hj : i = ⟨"j", "t", ["a"], false, true⟩ := by
    have hvalues : ((fulltextChange false true).old.indexesOf "t").values =
        [⟨"i", "t", ["a"], false, false⟩, ⟨"j", "t", ["a"], false, true⟩] := by decide
    rw [hvalues] at hi
    rcases List.mem_pair.mp hi with rfl | rfl
    · cases hfulltext
    · rfl
  rw [hj] at hdiffers
  exact hdiffers (by decide)

/-- One that stops to be an index of full texts is dropped as well, and was never built. -/
theorem unbuilt_index_dropped_by_fulltextChange :
    (fulltextChange true false).dialect = .pgsql ∧
      (fulltextChange true false).run.outcome =
        .ok [.dropIndex "t" "i", .createIndex ⟨"i", "t", ["a"], false, false⟩] ∧
      "t" ∈ (fulltextChange true false).common ∧
      (fulltextChange true false).old.mappedDatabase none "t" = none ∧
      (fulltextChange true false).databaseOf "t" = none ∧
      (fulltextChange true false).builtIndexes "t" "i" = none ∧
      ((fulltextChange true false).old.creation (fulltextChange true false).deployment).outcome =
        .ok [.dropTable "t", .dropView "t",
          .createTable "t" [⟨integerColumn "a", "integer"⟩] none []] :=
  ⟨rfl, rfl, by decide, rfl, rfl, by decide, rfl⟩

end Migration

end SchemaPlan
