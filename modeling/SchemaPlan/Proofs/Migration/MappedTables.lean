import SchemaPlan.Proofs.Migration.Drops

/-!
# Tables in other databases

A table that is mapped to another database is a view here.  Creating it takes the two statements
of a view, and no phase of a migration adds others, except the first one: the drops of stale keys
and indexes do not ask where the table lives.

* `Schema.each_creation_view_iff` says when the creation of a schema treats a mapped table as a
  view alone.
* `Migration.each_run_view_iff` says when a run does.
-/
namespace SchemaPlan

/-- The statements that make a table a view. -/
def Statement.MakesView (table : String) (s : Statement) : Prop :=
  s = .dropTable table ∨ ∃ database, s = .createView table database

theorem each_makesView_viewStatements (table database : String) :
    Each (Statement.MakesView table) (viewStatements table database) :=
  .cons (Or.inl rfl) (.singleton (Or.inr ⟨database, rfl⟩))

/-- A statement on a key, an index or a table of its own makes no view. -/
theorem Statement.kind_of_makesView {table : String} {s : Statement} (h : s.MakesView table) :
    s.kind = .table ∨ s.kind = .view := by
  rcases h with rfl | ⟨database, rfl⟩
  · exact Or.inl rfl
  · exact Or.inr rfl

/-! ## Creating a schema -/

namespace Schema

variable {s : Schema} {d : Deployment} {table database : String} {l : List Statement}

/-- Every table of this name lives in another database. -/
def IsAway (s : Schema) (d : Deployment) (table : String) : Prop :=
  ∀ t, Entity.table t ∈ s.entities → t.name = table →
    (SchemaPlan.mappedDatabase d.mapping t.group t.name).isSome

theorem isSome_table?_of_mapped (h : s.mappedDatabase d.mapping table = some database) :
    (s.table? table).isSome := by
  obtain ⟨t, ht, -⟩ := Option.bind_eq_some_iff.mp h
  rw [ht]
  rfl

/-- The tables and indexes of a mapped name contribute the statements of a view, and those of the
tables of this name that are local. -/
theorem makesView_of_tableStatements (hmapped : s.mappedDatabase d.mapping table = some database)
    (haway : s.IsAway d table) {e : Entity} (he : e ∈ s.entities) (hname : e.tableName = table)
    (h : (s.tableStatements d e).outcome = .ok l) : Each (Statement.MakesView table) l := by
  rcases tableStatements_cases h with ⟨t, other, rfl, -, rfl⟩ | ⟨t, rfl, hlocal, -⟩ |
    ⟨i, rfl, hnone, -⟩ | ⟨-, rfl⟩
  · rw [show t.name = table from hname]
    exact each_makesView_viewStatements table other
  · have hmapped := haway t he hname
    rw [hlocal] at hmapped
    cases hmapped
  · have hthere := isSome_table?_of_mapped hmapped
    rw [← show i.table = table from hname, hnone] at hthere
    cases hthere
  · exact .nil

/-- A foreign key of a mapped table contributes nothing. -/
theorem keyStatements_of_mapped (hmapped : s.mappedDatabase d.mapping table = some database)
    {e : Entity} (hname : e.tableName = table)
    (h : (s.keyStatements d e).outcome = .ok l) : l = [] := by
  rcases keyStatements_cases h with ⟨k, rfl, hlocal, -⟩ | hnil
  · rw [show k.table = table from hname, hmapped] at hlocal
    cases hlocal
  · exact hnil

/-- A seed row of a mapped table contributes nothing. -/
theorem seedStatements_of_mapped (hmapped : s.mappedDatabase d.mapping table = some database)
    {e : Entity} (hname : e.tableName = table)
    (h : (s.seedStatements d e).outcome = .ok l) : l = [] := by
  rcases seedStatements_cases h with ⟨r, contents, rfl, hlocal, -, -⟩ | hnil
  · rw [show r.table = table from hname, hmapped] at hlocal
    cases hlocal
  · exact hnil

/-- A local table is created by a statement that makes no view. -/
theorem not_each_makesView_creation {t : Table} {indexes : List Index} {dialect : Dialect}
    (h : t.creation indexes dialect = .ok l) : ∃ x ∈ l, x.subject = t.name ∧ ¬ x.MakesView t.name := by
  unfold Table.creation at h
  rw [bind_eq_ok_iff] at h
  obtain ⟨columns, -, h⟩ := h
  cases h
  refine ⟨_, List.mem_append_right _ List.mem_cons_self, rfl, ?_⟩
  rintro (h | ⟨_, h⟩) <;> cases h

/-- What the entities contribute about a table comes from the entities of the table. -/
theorem each_of_contributes {p : Statement → Prop} {f : Entity → List Statement}
    (hcontributes : ∀ e ∈ s.entities, Each e.Contributes (f e))
    (h : ∀ e ∈ s.entities, e.tableName = table → Each p (f e)) :
    Each p (thoseAbout table (s.entities.flatMap f)) := by
  intro x hx
  obtain ⟨hmem, hsubject⟩ := List.mem_filter.mp hx
  obtain ⟨e, he, hxe⟩ := List.mem_flatMap.mp hmem
  have hname : e.tableName = table :=
    (hcontributes e he x hxe).1.symm.trans (beq_iff_eq.mp hsubject)
  exact h e he hname x hxe

/-- The creation of a schema treats a mapped table as a view alone exactly when no table of its
name is local. -/
theorem each_creation_view_iff (hmapped : s.mappedDatabase d.mapping table = some database)
    (h : (s.creation d).outcome = .ok l) :
    Each (Statement.MakesView table) (thoseAbout table l) ↔ s.IsAway d table := by
  obtain ⟨hcreate, hkey, hseed, rfl⟩ := creation_eq_ok_iff.mp h
  constructor
  · intro hviews t ht hname
    -- A local table of the name would be created.
    by_contra hlocal
    rw [Option.not_isSome_iff_eq_none] at hlocal
    have hcreated := hcreate _ ht
    simp only [tableStatements, hlocal, Noted.outcome_ofExcept] at hcreated
    obtain ⟨x, hx, hsubject, hview⟩ := not_each_makesView_creation hcreated
    rw [hname] at hsubject hview
    refine hview (hviews x (List.mem_filter.mpr ⟨?_, beq_iff_eq.mpr hsubject⟩))
    refine List.mem_append_left _ (List.mem_append_left _ (List.mem_flatMap.mpr ⟨_, ht, ?_⟩))
    simpa only [tableStatements, hlocal] using hx
  · intro haway
    rw [thoseAbout_append, thoseAbout_append]
    refine .append (.append ?_ ?_) ?_
    · refine each_of_contributes (fun e he => each_tableStatements (hcreate e he)) ?_
      exact fun e he hname => makesView_of_tableStatements hmapped haway he hname (hcreate e he)
    · refine each_of_contributes (fun e he => each_keyStatements (hkey e he)) fun e he hname => ?_
      rw [keyStatements_of_mapped hmapped hname (hkey e he)]
      exact .nil
    · refine each_of_contributes (fun e he => each_seedStatements (hseed e he)) fun e he hname => ?_
      rw [seedStatements_of_mapped hmapped hname (hseed e he)]
      exact .nil

end Schema

/-! ## Migrating -/

namespace Migration

variable (m : Migration) {table database : String} {statements : List Statement}

/-- No drop of a key or an index makes a view, so the first phase is right only when it is empty. -/
theorem each_makesView_staleDrops_iff :
    Each (Statement.MakesView table) (m.staleDrops table) ↔ m.staleDrops table = [] := by
  constructor
  · intro hviews
    rw [List.eq_nil_iff_forall_not_mem]
    intro s hs
    have hkind := Statement.kind_of_makesView (hviews s hs)
    rcases (m.onKeys_staleDrops table s hs).2 with hindex | hkey
    · rw [hindex] at hkind
      exact absurd hkind (by decide)
    · rw [hkey] at hkind
      exact absurd hkind (by decide)
  · intro hnil
    rw [hnil]
    exact .nil

/-- The first phase drops something of a table: it may, and some key or index is stale. -/
def DropsStale (table : String) : Prop :=
  m.allow.dropIndex = true ∧ ∃ name, name ∈ m.staleKeys table ∨ name ∈ m.staleIndexes table

theorem staleDrops_eq_nil_iff : m.staleDrops table = [] ↔ ¬ m.DropsStale table := by
  unfold DropsStale
  cases hallow : m.allow.dropIndex with
  | false =>
    refine iff_of_true ?_ (by simp)
    simp [staleDrops, earlyKeys, earlyIndexes, hallow]
  | true =>
    have hkeys : m.earlyKeys table = m.staleKeys table := by simp [earlyKeys, hallow]
    constructor
    · intro hnil
      rintro ⟨-, name, hkey | hindex⟩
      · -- A stale key is dropped by a statement of its own.
        have hdrop := (m.dropKey_mem_staleDrops).mpr (hkeys ▸ hkey)
        rw [hnil] at hdrop
        cases hdrop
      · -- A stale index is dropped along with a key or after the keys.
        have hdrop : .dropIndex table name ∈ m.staleDrops table := by
          rw [dropIndex_mem_staleDrops, droppedEarly, List.mem_append]
          by_cases hbacking : name ∈ m.backingIndexes table
          · exact Or.inl hbacking
          · right
            rw [earlyIndexes, if_pos hallow, List.mem_filter]
            exact ⟨hindex, by simpa using hbacking⟩
        rw [hnil] at hdrop
        cases hdrop
    · intro hnone
      have hstale : m.staleKeys table = [] := by
        rw [List.eq_nil_iff_forall_not_mem]
        exact fun name hname => hnone ⟨rfl, name, Or.inl hname⟩
      have hindexes : m.earlyIndexes table = [] := by
        rw [List.eq_nil_iff_forall_not_mem]
        exact fun name hname =>
          hnone ⟨rfl, name, Or.inr (m.staleIndex_of_mem_earlyIndexes hname)⟩
      rw [staleDrops, hkeys, hstale, hindexes]
      rfl

/-- The changes of a mapped table are those of a view, if any. -/
theorem each_makesView_changed (hcommon : table ∈ m.common)
    (hmapped : m.databaseOf table = some database)
    (h : m.tableChanges table = .ok (m.changed table)) :
    Each (Statement.MakesView table) (m.changed table) := by
  obtain ⟨old, new, hold, hnew⟩ := m.tables_of_common hcommon
  obtain ⟨columns, -, heq⟩ := (m.tableChanges_of_mapped hold hnew hmapped).mp h
  rw [heq]
  exact .ite .nil (each_makesView_viewStatements table database)

/-- A new table that is mapped is created as a view. -/
theorem each_makesView_created (hmapped : m.databaseOf table = some database)
    (h : (m.tableCreation table).outcome = .ok (m.created table)) :
    Each (Statement.MakesView table) (m.created table) := by
  obtain ⟨t, ht, hdatabase⟩ := Option.bind_eq_some_iff.mp hmapped
  -- The table is the only one in the part of the schema that it is created from.
  have haway : (m.partOf table).IsAway m.deployment table := by
    intro u hu _
    rw [← Schema.mem_declaredTables, declaredTables_partOf, ht, Option.toList_some,
      List.mem_singleton] at hu
    rw [hu, hdatabase]
    rfl
  have hpart : (m.partOf table).mappedDatabase m.deployment.mapping table = some database := by
    rw [Schema.mappedDatabase, table?_partOf]
    exact hmapped
  have hviews := (Schema.each_creation_view_iff hpart h).mpr haway
  rwa [thoseAbout_eq_self ((m.plain_created h).mono fun _ hs => hs.1)] at hviews

/-- A run treats a mapped table as a view alone exactly when the first phase leaves it alone. -/
theorem each_run_view_iff (h : m.run.outcome = .ok statements)
    (hmapped : m.databaseOf table = some database) :
    Each (Statement.MakesView table) (thoseAbout table statements) ↔
      ¬ (table ∈ m.common ∧ m.DropsStale table) := by
  have hnew : (m.new.table? table).isSome := Schema.isSome_table?_of_mapped (d := m.deployment) hmapped
  have hcreation : m.keyCreation table = [] := by rw [keyCreation, hmapped]; rfl
  have hchanges : m.keyChanges table = [] := by rw [keyChanges, hmapped]; rfl
  by_cases hcommon : table ∈ m.common
  · obtain ⟨hchanged, heq⟩ := m.thoseAbout_common h hcommon
    have hviews := m.each_makesView_changed hcommon hmapped hchanged
    rw [heq, hchanges, List.append_nil, and_iff_right hcommon, ← staleDrops_eq_nil_iff,
      ← each_makesView_staleDrops_iff]
    exact ⟨fun hall s hs => hall s (List.mem_append_left _ hs), fun hstale => .append hstale hviews⟩
  · have hadded : table ∈ m.added := by
      rw [mem_added, Option.isNone_iff_eq_none]
      refine ⟨hnew, ?_⟩
      by_contra hold
      exact hcommon ((m.mem_common).mpr ⟨Option.isSome_iff_ne_none.mpr hold, hnew⟩)
    obtain ⟨hcreated, heq⟩ := m.thoseAbout_added h hadded
    refine iff_of_true ?_ fun hstale => hcommon hstale.1
    rw [heq, hcreation, List.append_nil]
    exact m.each_makesView_created hmapped hcreated

/-- **A table in another database is a view and nothing else.**  Creating the new schema treats it
so when no table of its name is local; a run does so except where the first phase drops its stale
keys and indexes. -/
theorem mapped_table_is_view (hmapped : m.databaseOf table = some database) :
    (∀ l, (m.new.creation m.deployment).outcome = .ok l →
      (Each (Statement.MakesView table) (thoseAbout table l) ↔
        m.new.IsAway m.deployment table)) ∧
    ∀ l, m.run.outcome = .ok l →
      (Each (Statement.MakesView table) (thoseAbout table l) ↔
        ¬ (table ∈ m.common ∧ m.DropsStale table)) :=
  ⟨fun _ h => Schema.each_creation_view_iff hmapped h, fun _ h => m.each_run_view_iff h hmapped⟩

/-! ## A view that loses an index -/

/-- A table of a group that lives in another database gets a column of another type and loses an
index. -/
def mappedChange (dropIndex : Bool) : Migration where
  old := ⟨[.table ⟨"t", [⟨"c", .base .date, 0, 0, true, none, none, false, false, none⟩], none,
      some "g"⟩, .index ⟨"i", "t", ["c"], false, false⟩]⟩
  new := ⟨[.table ⟨"t", [⟨"c", .base .text, 0, 0, true, none, none, false, false, none⟩], none,
      some "g"⟩]⟩
  deployment := ⟨⟨.mysql, ""⟩, some ⟨.empty, ⟨[("g", "other")]⟩, ["other"]⟩, none, .empty⟩
  allow := ⟨false, false, dropIndex⟩

/-- Without permission to drop the index the table is a view and nothing else. -/
theorem view_of_mappedChange :
    (mappedChange false).run.outcome = .ok (viewStatements "t" "other") ∧
      Each (Statement.MakesView "t") (thoseAbout "t" (viewStatements "t" "other")) := by
  have hrun : (mappedChange false).run.outcome = .ok (viewStatements "t" "other") := rfl
  refine ⟨hrun, ((mapped_table_is_view _ rfl).2 _ hrun).mpr ?_⟩
  rintro ⟨-, hallow, -⟩
  cases hallow

/-- With permission the index is dropped, although there is a view and no table. -/
theorem index_drop_by_mappedChange :
    (mappedChange true).databaseOf "t" = some "other" ∧
      (mappedChange true).run.outcome = .ok (.dropIndex "t" "i" :: viewStatements "t" "other") ∧
      ¬ Statement.MakesView "t" (.dropIndex "t" "i") :=
  ⟨rfl, rfl, fun h => by rcases h with h | ⟨_, h⟩ <;> cases h⟩

end Migration

end SchemaPlan
