import SchemaPlan.Proofs.Migration.Drops
import SchemaPlan.Proofs.Schema.Equality

/-!
# Unchanged tables

With a table that is the same in both schemas there is nothing to do.  No key and no index of it is
stale, and what stands under a name in both versions is equal.  The last point needs that the table
does not have two different columns of one name, for only the first of them is compared.  So a run
between equal schemas is empty.

* `Table.column?_of_same` finds the column that a column of the new table is compared with.
* `Migration.run_of_unchanged` says what a run does when no common table changes.
* `Migration.run_of_same` says that between equal schemas the run has no statements.
-/
namespace SchemaPlan

/-! ## Tables -/

/-- Columns of one name are equal. -/
def Table.IsUnambiguous (t : Table) : Prop :=
  t.columns.Pairwise fun c d => c.name = d.name → c.same? d = some true

namespace Table

variable {old new : Table}

/-- A column of the new table is equal to the one of its name in the old table. -/
theorem column?_of_same (hsame : old.same? new = some true) (hnew : new.IsUnambiguous)
    {c : Column} (hc : c ∈ new.columns) :
    ∃ o, old.column? c.name = some o ∧ o.same? c = some true := by
  obtain ⟨-, hcolumns, -, -⟩ := same?_iff.mp hsame
  have hlists : ∀ as bs, List.Forall₂ (fun a b => Column.same? a b = some true) as bs →
      bs.Pairwise (fun c d => c.name = d.name → c.same? d = some true) → c ∈ bs →
      ∃ o, as.find? (fun a => a.name == c.name) = some o ∧ o.same? c = some true := by
    intro as bs hall
    induction hall with
    | nil =>
      intro _ hmem
      cases hmem
    | @cons a b as bs hfirst _ ih =>
      intro hpairs hmem
      obtain ⟨hb, hrest⟩ := List.pairwise_cons.mp hpairs
      have hname : a.name = b.name := Column.name_of_same? hfirst
      -- The first old column of the name is the one that is found.  It is equal to the new column
      -- at its place, and that one to all later columns of the name.
      by_cases ha : a.name = c.name
      · refine ⟨a, List.find?_cons_of_pos (by simp [ha]), ?_⟩
        rcases List.mem_cons.mp hmem with rfl | hmem
        · exact hfirst
        · exact Column.same?_trans hfirst (hb c hmem (hname.symm.trans ha))
      · rw [List.find?_cons_of_neg (by simp [ha])]
        rcases List.mem_cons.mp hmem with rfl | hmem
        · exact absurd hname ha
        · exact ih hrest hmem
  exact hlists old.columns new.columns hcolumns hnew hc

/-- A name of an old column is the name of a new one. -/
theorem isSome_column?_of_same (hsame : old.same? new = some true) {c : Column}
    (hc : c ∈ old.columns) : (new.column? c.name).isSome := by
  obtain ⟨-, hcolumns, -, -⟩ := same?_iff.mp hsame
  have hnames : old.columns.map Column.name = new.columns.map Column.name := by
    rw [← List.forall₂_eq_eq_eq, List.forall₂_map_left_iff, List.forall₂_map_right_iff]
    exact hcolumns.imp fun _ _ => Column.name_of_same?
  have hname : c.name ∈ new.columns.map Column.name := hnames ▸ List.mem_map_of_mem hc
  obtain ⟨d, hd, hcd⟩ := List.mem_map.mp hname
  rw [column?, List.find?_isSome]
  exact ⟨d, hd, beq_iff_eq.mpr hcd⟩

end Table

theorem columnChanges_of_same {d : Dialect} {old : Table} {table : String} {isView : Bool}
    {columns : List Column}
    (h : ∀ c ∈ columns, ∃ o, old.column? c.name = some o ∧ o.same? c = some true)
    (previous : Option String) : columnChanges d old table isView previous columns = .ok [] := by
  induction columns generalizing previous with
  | nil => rfl
  | cons c rest ih =>
    obtain ⟨o, ho, hsame⟩ := h c List.mem_cons_self
    refine columnChanges_cons_iff.mpr ⟨[], [], ?_, ?_, rfl⟩
    · rw [ho]
      exact columnChange_some_iff.mpr (Or.inl ⟨hsame, rfl⟩)
    · exact ih (fun c hc => h c (List.mem_cons_of_mem _ hc)) (some c.name)

/-- Equal tables have no changes of columns. -/
theorem tableColumnChanges_of_same {d : Dialect} {old new : Table} {isView allowDrop : Bool}
    (hsame : old.same? new = some true) (hnew : new.IsUnambiguous) :
    tableColumnChanges d old new isView allowDrop = .ok [] := by
  have hdrops : columnDrops d old new = [] := by
    rw [columnDrops, List.flatMap_eq_nil_iff]
    intro c hc
    rw [if_pos (Table.isSome_column?_of_same hsame hc)]
  have hchanges : columnChanges d old new.name isView none new.columns = .ok [] :=
    columnChanges_of_same (fun _ hc => Table.column?_of_same hsame hnew hc) none
  refine tableColumnChanges_iff.mpr ⟨[], hchanges, ?_⟩
  rw [hdrops]
  simp

/-! ## Unchanged tables -/

namespace Migration

variable {m : Migration} {table : String}

/-- A table that is the same in both schemas, with its indexes and foreign keys. -/
structure IsUnchanged (m : Migration) (table : String) : Prop where
  same : Option.Rel (fun u v => u.same? v = some true) (m.old.table? table) (m.new.table? table)
  unambiguous : ∀ t, m.new.table? table = some t → t.IsUnambiguous
  indexes : m.old.indexesOf table = m.new.indexesOf table
  keys : m.old.foreignKeysOf table = m.new.foreignKeysOf table

namespace IsUnchanged

theorem staleKeys_eq_nil (h : m.IsUnchanged table) : m.staleKeys table = [] := by
  rw [List.eq_nil_iff_forall_not_mem]
  intro name
  exact m.not_mem_staleKeys (by rw [h.keys])

theorem staleIndexes_eq_nil (h : m.IsUnchanged table) : m.staleIndexes table = [] := by
  rw [List.eq_nil_iff_forall_not_mem]
  intro name
  exact m.not_mem_staleIndexes (by rw [h.indexes])

theorem staleDrops_eq_nil (h : m.IsUnchanged table) : m.staleDrops table = [] := by
  have hkeys : m.earlyKeys table = [] := by
    rw [earlyKeys, h.staleKeys_eq_nil, ite_self]
  have hindexes : m.earlyIndexes table = [] := by
    rw [earlyIndexes, h.staleIndexes_eq_nil]
    exact ite_self _
  rw [staleDrops, hkeys, hindexes]
  rfl

theorem indexChanges_eq_nil (h : m.IsUnchanged table) : m.indexChanges table = [] := by
  have hchanged : m.changedIndexes table = [] := by
    rw [List.eq_nil_iff_forall_not_mem]
    intro i hi
    obtain ⟨hvalue, hdiffers⟩ := (m.mem_changedIndexes).mp hi
    rw [h.indexes] at hdiffers
    exact hdiffers ((m.new.isTableMap_indexesOf table).keyed.get?_name hvalue)
  rw [indexChanges_eq, hchanged]
  rfl

theorem keyChanges_eq_nil (h : m.IsUnchanged table) : m.keyChanges table = [] := by
  unfold keyChanges
  split_ifs
  · rfl
  · rw [List.flatMap_eq_nil_iff]
    intro k hk
    have hold := (m.new.isTableMap_foreignKeysOf table).keyed.get?_name hk
    rw [← h.keys] at hold
    rw [keyChange, if_pos hold]

/-- An unchanged table has no changes. -/
theorem tableChanges_eq_nil (h : m.IsUnchanged table) : m.tableChanges table = .ok [] := by
  have htables := h.same
  -- The table is in neither schema, or it has equal versions in both.
  cases hold : m.old.table? table with
  | none =>
    unfold tableChanges
    rw [hold]
  | some old =>
    rw [hold] at htables
    cases hnew : m.new.table? table with
    | none =>
      unfold tableChanges
      rw [hold, hnew]
    | some new =>
      rw [hnew] at htables
      cases htables with
      | some hsame =>
        have hcolumns : ∀ isView, tableColumnChanges m.dialect old new isView m.allow.dropColumn =
            .ok [] := fun _ => tableColumnChanges_of_same hsame (h.unambiguous new hnew)
        cases hdatabase : m.databaseOf table with
        | some database =>
          exact (m.tableChanges_of_mapped hold hnew hdatabase).mpr ⟨[], hcolumns true, rfl⟩
        | none =>
          refine (m.tableChanges_of_local hold hnew hdatabase).mpr ⟨[], hcolumns false, ?_⟩
          rw [h.indexChanges_eq_nil, primaryKeyChanges, if_pos (Table.same?_iff.mp hsame).2.2.1]
          rfl

end IsUnchanged

/-- **Beside unchanged tables** a run drops the removed tables and creates the new ones, and does
nothing else. -/
theorem run_of_unchanged (h : ∀ t ∈ m.common, m.IsUnchanged t) :
    m.run.outcome = (Noted.gather
      ((if m.allow.dropTable then m.removed.map fun t => pure (m.tableDrops t) else []) ++
        m.added.map m.tableCreation ++ m.added.map fun t => pure (m.keyCreation t))).outcome := by
  have hrun : m.run.outcome = (Noted.gather m.phases).outcome := rfl
  have hstale : Noted.gather (m.common.map fun t => pure (m.staleDrops t)) = pure [] := by
    refine Noted.gather_of_forall_eq_nil (List.forall_mem_map.mpr fun t ht => ?_)
    rw [(h t ht).staleDrops_eq_nil]
  have hchanges : Noted.gather (m.common.map fun t => .ofExcept (m.tableChanges t)) = pure [] := by
    refine Noted.gather_of_forall_eq_nil (List.forall_mem_map.mpr fun t ht => ?_)
    rw [(h t ht).tableChanges_eq_nil]
    rfl
  have hkeys : Noted.gather (m.common.map fun t => pure (m.keyChanges t)) = pure [] := by
    refine Noted.gather_of_forall_eq_nil (List.forall_mem_map.mpr fun t ht => ?_)
    rw [(h t ht).keyChanges_eq_nil]
  rw [hrun, phases]
  simp only [Noted.gather_append, hstale, hchanges, hkeys, pure_bind, bind_pure, List.nil_append,
    List.append_nil]

/-! ## Equal schemas -/

theorem isUnchanged_of_same (h : m.old.same? m.new = some true)
    (hnew : ∀ t, Entity.table t ∈ m.new.entities → t.IsUnambiguous) (table : String) :
    m.IsUnchanged table :=
  ⟨Schema.table?_of_same h table, fun t ht => hnew t (m.new.table?_eq_some ht).2,
    Schema.indexesOf_of_same h table, Schema.foreignKeysOf_of_same h table⟩

/-- Equal schemas have the same tables. -/
theorem isSome_table?_of_same (h : m.old.same? m.new = some true) (name : String) :
    (m.old.table? name).isSome = (m.new.table? name).isSome := by
  have htables := Schema.table?_of_same h name
  generalize m.old.table? name = old, m.new.table? name = new at htables
  cases htables with
  | none => rfl
  | some => rfl

theorem added_of_same (h : m.old.same? m.new = some true) : m.added = [] := by
  rw [List.eq_nil_iff_forall_not_mem]
  intro name hname
  obtain ⟨hnew, hold⟩ := (m.mem_added).mp hname
  rw [← isSome_table?_of_same h, ← Option.not_isNone, hold] at hnew
  cases hnew

theorem removed_of_same (h : m.old.same? m.new = some true) : m.removed = [] := by
  rw [List.eq_nil_iff_forall_not_mem]
  intro name hname
  obtain ⟨hold, hnew⟩ := (m.mem_removed).mp hname
  rw [isSome_table?_of_same h, ← Option.not_isNone, hnew] at hold
  cases hold

/-- **Between equal schemas a run has no statements.** -/
theorem run_of_same (h : m.old.same? m.new = some true)
    (hnew : ∀ t, Entity.table t ∈ m.new.entities → t.IsUnambiguous) :
    m.run.outcome = .ok [] := by
  rw [run_of_unchanged fun t _ => isUnchanged_of_same h hnew t, added_of_same h,
    removed_of_same h, List.map_nil, ite_self]
  rfl

/-- **Between equal schemas there is nothing to write**, whatever the deployment, the permissions
and the bound on statements. -/
theorem sql_of_same (bound : Int) (h : m.old.same? m.new = some true)
    (hnew : ∀ t, Entity.table t ∈ m.new.entities → t.IsUnambiguous) :
    (m.sql bound).outcome = .ok [] := by
  rw [sql, Noted.outcome_bind, run_of_same h hnew]
  rfl

/-- A table that declares an amount once for each of these defaults, a second table of its name that
does not count, and an index of a table that is not there. -/
def amounts (defaults : List Decimal) : Schema :=
  ⟨[.table ⟨"t", defaults.map fun d =>
      ⟨"amount", .base .decimal, 5, 2, true, some (.decimal d), none, false, false, none⟩,
      none, none⟩,
    .table ⟨"t", [], none, none⟩, .index ⟨"i", "gone", ["a"], false, false⟩]⟩

/-- The amount is declared with the defaults `1.5` and `1.50`, then the other way round. -/
def respelling : Migration where
  old := amounts [.finite false 15 (-1), .finite false 150 (-2)]
  new := amounts [.finite false 150 (-2), .finite false 15 (-1)]
  deployment := ⟨⟨.pgsql, ""⟩, none, none, .empty⟩
  allow := ⟨true, true, true⟩

/-- For `respelling` there is nothing to write. -/
theorem nothing_to_write_for_respelling :
    respelling.old.same? respelling.new = some true ∧
      (respelling.sql defaultBound).outcome = .ok [] := by
  have hsame : respelling.old.same? respelling.new = some true := by decide +kernel
  have hnew : ∀ t, Entity.table t ∈ respelling.new.entities → t.IsUnambiguous := by
    intro t ht
    simp only [respelling, amounts, List.mem_cons, Entity.table.injEq, reduceCtorEq,
      List.not_mem_nil, or_false] at ht
    rcases ht with rfl | rfl
    · unfold Table.IsUnambiguous
      decide +kernel
    · exact List.Pairwise.nil
  exact ⟨hsame, sql_of_same defaultBound hsame hnew⟩

end Migration

end SchemaPlan
