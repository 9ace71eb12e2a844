import SchemaPlan.Proofs.Column.Typed
import SchemaPlan.Proofs.Document.Fields
import SchemaPlan.Proofs.Migration.FromNothing
import SchemaPlan.Proofs.Migration.Permissions
import SchemaPlan.Proofs.Schema.Equality

/-!
# When a run succeeds

A schema that can be created can be created table by table, so a run that fails does so where a
table of both schemas is changed.  A table that stays in the database has columns that can be
written.  For a view nothing is written but the view, and yet the run writes the columns that differ
to find out whether the view has to be made anew.

* `exists_wholeChange_iff`, `exists_localChange_iff` and `exists_viewChange_iff` say when the change
  of a column can be written.
* `Migration.exists_run_iff` reads the success of a run off its tables.
* `Migration.sql_succeeds_iff` says when a run to a schema that can be created succeeds.
-/
namespace SchemaPlan

variable {d : Dialect} {table : String} {isView : Bool} {previous : Option String}
  {old : Option Column} {o c : Column}

/-! ## Columns that can be written -/

/-- No column of a schema has a signalling number as its default. -/
def Schema.HasQuietDefaults (s : Schema) : Prop :=
  ∀ t, Entity.table t ∈ s.entities → ∀ c ∈ t.columns, c.HasQuietDefault

/-- A column that can be written is one of the vocabulary. -/
theorem Column.base_of_typed (h : ∃ typed, c.typed d = .ok typed) : ∃ t, c.type = .base t := by
  obtain ⟨typed, htyped⟩ := h
  obtain ⟨type, htype, -⟩ := Column.typed_eq_ok_iff.mp htyped
  unfold Column.sqlType at htype
  split at htype
  · exact ⟨_, ‹_›⟩
  · cases htype

/-! ## The change of a column -/

/-- The types of two columns are compared when that of the old one can be looked up. -/
theorem exists_typeChanges_iff :
    (∃ newType, typeChanges o c = .ok newType) ↔ o.type.isKey = true := by
  unfold typeChanges
  cases o.type.isKey with
  | false => simp
  | true =>
    simp only [Bool.not_true, Bool.false_eq_true, if_false, iff_true]
    split <;> exact ⟨_, rfl⟩

/-- The whole change of a column can be written when the new column can, and on the dialect that
compares types and defaults when the type of the old one can be looked up and the defaults can be
compared. -/
theorem exists_wholeChange_iff :
    (∃ l, wholeChange d table previous o c = .ok l) ↔
      (∃ typed, c.typed d = .ok typed) ∧
        (d = .pgsql → o.type.isKey = true ∧ sameDefault? o.default c.default ≠ none) := by
  cases d with
  | mysql =>
    constructor
    · rintro ⟨l, h⟩
      obtain ⟨typed, htyped, -⟩ := wholeChange_mysql_iff.mp h
      exact ⟨⟨typed, htyped⟩, nofun⟩
    · rintro ⟨⟨typed, htyped⟩, -⟩
      exact ⟨_, wholeChange_mysql_iff.mpr ⟨typed, htyped, rfl⟩⟩
  | pgsql =>
    rw [← exists_typeChanges_iff (c := c)]
    constructor
    · rintro ⟨l, h⟩
      obtain ⟨typed, htyped, hpieces⟩ := wholeChange_pgsql_iff.mp h
      obtain ⟨newType, same, htype, hsame, -⟩ := piecewiseChange_iff.mp hpieces
      exact ⟨⟨typed, htyped⟩,
        fun _ => ⟨⟨newType, htype⟩, Option.ne_none_iff_exists'.mpr ⟨same, hsame⟩⟩⟩
    · rintro ⟨⟨typed, htyped⟩, hcompared⟩
      obtain ⟨⟨newType, htype⟩, hdefault⟩ := hcompared rfl
      obtain ⟨same, hsame⟩ := Option.ne_none_iff_exists'.mp hdefault
      exact ⟨_, wholeChange_pgsql_iff.mpr
        ⟨typed, htyped, piecewiseChange_iff.mpr ⟨newType, same, htype, hsame, rfl⟩⟩⟩

/-- A new column can be added when it can be written. -/
theorem exists_addition_iff :
    (∃ l, columnChange d table isView previous none c = .ok l) ↔
      ∃ typed, c.typed d = .ok typed := by
  constructor
  · rintro ⟨l, h⟩
    obtain ⟨typed, htyped, -⟩ := columnChange_none_iff.mp h
    exact ⟨typed, htyped⟩
  · rintro ⟨typed, htyped⟩
    exact ⟨_, columnChange_none_iff.mpr ⟨typed, htyped, rfl⟩⟩

/-- On a table that stays in the database all that can be in the way is the type of an old column
that cannot be looked up. -/
theorem exists_localChange_iff (htyped : ∃ typed, c.typed d = .ok typed)
    (hdefault : ∀ o, old = some o → sameDefault? o.default c.default ≠ none) :
    (∃ l, columnChange d table false previous old c = .ok l) ↔
      (d = .pgsql → ∀ o, old = some o → o.type.isKey = true) := by
  cases old with
  | none =>
    rw [exists_addition_iff]
    refine iff_of_true htyped fun _ o ho => ?_
    cases ho
  | some o =>
    have hbase := Column.base_of_typed htyped
    have hwhole : (∃ l, wholeChange d table previous o c = .ok l) ↔
        (d = .pgsql → o.type.isKey = true) := by
      rw [exists_wholeChange_iff, and_iff_right htyped, and_iff_left (hdefault o rfl)]
    constructor
    · rintro ⟨l, h⟩ hpgsql _ ⟨⟩
      rcases columnChange_some_iff.mp h with ⟨hsame, -⟩ | ⟨-, hview, -⟩ | ⟨-, -, h⟩
      · -- An equal column has the same type, one of the vocabulary.
        obtain ⟨t, ht⟩ := hbase
        have htype := (Column.same?_iff.mp hsame).2.1
        rw [ht] at htype
        cases ho : o.type with
        | base s => rfl
        | other label => simp [ho, ColumnType.same?] at htype
      · cases hview
      · exact hwhole.mp ⟨l, h⟩ hpgsql
    · intro hkey
      obtain ⟨same, hsame⟩ :=
        Option.ne_none_iff_exists'.mp (Column.same?_ne_none_of_base hbase (hdefault o rfl))
      cases same with
      | true => exact ⟨[], columnChange_some_iff.mpr (Or.inl ⟨hsame, rfl⟩)⟩
      | false =>
        obtain ⟨l, h⟩ := hwhole.mpr fun hpgsql => hkey hpgsql o rfl
        have hview : false = true → c.sameInView? o = some false :=
          fun hview => absurd hview Bool.false_ne_true
        exact ⟨l, columnChange_some_iff.mpr (Or.inr (Or.inr ⟨hsame, hview, h⟩))⟩

/-- A view does not show the difference of two columns. -/
def Column.StaysInView (old new : Column) : Prop :=
  old.same? new = some true ∨ (old.same? new = some false ∧ new.sameInView? old = some true)

/-- A view shows the difference of two columns. -/
def Column.ChangesInView (old new : Column) : Prop :=
  old.same? new = some false ∧ new.sameInView? old = some false

/-- A column of a view that is new or that changes can be written, and where types are compared that
of the old column can be looked up. -/
def Column.CanChangeInView (d : Dialect) (new : Column) : Option Column → Prop
  | none => ∃ typed, new.typed d = .ok typed
  | some old => old.StaysInView new ∨
      (old.ChangesInView new ∧ (∃ typed, new.typed d = .ok typed) ∧
        (d = .pgsql → old.type.isKey = true))

/-- The change of an old column of a view can be written when the view does not show it, or when it
does and the whole change can be written. -/
theorem exists_viewChange_some_iff :
    (∃ l, columnChange d table true previous (some o) c = .ok l) ↔
      o.StaysInView c ∨ (o.ChangesInView c ∧ ∃ l, wholeChange d table previous o c = .ok l) := by
  simp only [columnChange_some_iff, Column.StaysInView, Column.ChangesInView]
  constructor
  · rintro ⟨l, ⟨hsame, -⟩ | ⟨hsame, -, halike, -⟩ | ⟨hsame, halike, h⟩⟩
    · exact Or.inl (Or.inl hsame)
    · exact Or.inl (Or.inr ⟨hsame, halike⟩)
    · exact Or.inr ⟨⟨hsame, halike trivial⟩, l, h⟩
  · rintro ((hsame | ⟨hsame, halike⟩) | ⟨⟨hsame, halike⟩, l, h⟩)
    · exact ⟨[], Or.inl ⟨hsame, rfl⟩⟩
    · exact ⟨[], Or.inr (Or.inl ⟨hsame, trivial, halike, rfl⟩)⟩
    · exact ⟨l, Or.inr (Or.inr ⟨hsame, fun _ => halike, h⟩)⟩

theorem exists_viewChange_iff
    (hdefault : ∀ o, old = some o → sameDefault? o.default c.default ≠ none) :
    (∃ l, columnChange d table true previous old c = .ok l) ↔ c.CanChangeInView d old := by
  cases old with
  | none => exact exists_addition_iff
  | some o =>
    rw [exists_viewChange_some_iff, exists_wholeChange_iff, and_iff_left (hdefault o rfl),
      Column.CanChangeInView]

/-! ## The changes of a table -/

/-- The columns of a table that is created can be written. -/
theorem Table.typed_of_creation {t : Table} {indexes : List Index} {l : List Statement}
    (h : t.creation indexes d = .ok l) : ∀ c ∈ t.columns, ∃ typed, c.typed d = .ok typed := by
  unfold Table.creation at h
  rw [bind_eq_ok_iff] at h
  obtain ⟨columns, hcolumns, -⟩ := h
  intro c hc
  have hall := mapM_eq_ok_iff.mp hcolumns
  obtain ⟨i, hi, rfl⟩ := List.mem_iff_getElem.mp hc
  exact ⟨_, hall.get hi (hall.length_eq ▸ hi)⟩

namespace Migration

variable (m : Migration) {l : List Statement}

/-! ## The tables of a run -/

/-- A run succeeds when every new table can be created and every common one changed. -/
theorem exists_run_iff :
    (∃ statements, m.run.outcome = .ok statements) ↔
      (∀ t ∈ m.added, ∃ l, (m.tableCreation t).outcome = .ok l) ∧
        ∀ t ∈ m.common, ∃ l, m.tableChanges t = .ok l := by
  constructor
  · rintro ⟨statements, h⟩
    obtain ⟨hadded, hcommon, -⟩ := (m.run_eq_ok_iff).mp h
    exact ⟨fun t ht => ⟨_, hadded t ht⟩, fun t ht => ⟨_, hcommon t ht⟩⟩
  · rintro ⟨hadded, hcommon⟩
    refine ⟨_, (m.run_eq_ok_iff).mpr ⟨fun t ht => ?_, fun t ht => ?_, rfl⟩⟩
    · obtain ⟨l, h⟩ := hadded t ht
      rw [created, Noted.resultOrNil_of_ok h]
      exact h
    · obtain ⟨l, h⟩ := hcommon t ht
      have hof : (Noted.ofExcept (m.tableChanges t)).outcome = .ok l := by
        rw [Noted.outcome_ofExcept]
        exact h
      rw [changed, Noted.resultOrNil_of_ok hof]
      exact h

/-- In a schema that can be created every new table can. -/
theorem exists_tableCreation (hcreation : (m.new.creation m.deployment).outcome = .ok l)
    (hadded : table ∈ m.added) : ∃ part, (m.tableCreation table).outcome = .ok part := by
  obtain ⟨htables, -, hseeds, -⟩ := Schema.creation_eq_ok_iff.mp hcreation
  obtain ⟨t, ht⟩ := Option.isSome_iff_exists.mp ((m.mem_added).mp hadded).1
  refine ⟨_, m.outcome_tableCreation ht (htables _ (m.new.table?_eq_some ht).2) fun r hr => ?_⟩
  rw [Schema.seedsOf_eq] at hr
  exact hseeds _ (m.new.mem_declaredSeeds.mp (List.mem_of_mem_filter hr))

/-- In a schema that can be created the columns of every table in the database can be written. -/
theorem typed_of_local (hcreation : (m.new.creation m.deployment).outcome = .ok l) {new : Table}
    (hnew : m.new.table? table = some new) (hlocal : m.databaseOf table = none) :
    ∀ c ∈ new.columns, ∃ typed, c.typed m.dialect = .ok typed := by
  obtain ⟨htables, -⟩ := Schema.creation_eq_ok_iff.mp hcreation
  obtain ⟨-, hentity⟩ := m.new.table?_eq_some hnew
  have hmapped : mappedDatabase m.deployment.mapping new.group new.name = none := by
    rw [databaseOf, Schema.mappedDatabase, hnew] at hlocal
    exact hlocal
  have htable := htables _ hentity
  simp only [Schema.tableStatements, hmapped, Noted.outcome_ofExcept] at htable
  exact Table.typed_of_creation htable

/-- The change of a column of a common table can be written, or does not have to be. -/
def CanChangeColumn (table : String) (old : Option Column) (new : Column) : Prop :=
  if (m.databaseOf table).isSome then new.CanChangeInView m.dialect old
  else m.dialect = .pgsql → ∀ o, old = some o → o.type.isKey = true

/-- A common table can be changed when each of its new columns can. -/
theorem exists_tableChanges_iff {old new : Table} (hold : m.old.table? table = some old)
    (hnew : m.new.table? table = some new)
    (hdefault : ∀ c ∈ new.columns, ∀ o, old.column? c.name = some o →
      sameDefault? o.default c.default ≠ none)
    (htyped : m.databaseOf table = none →
      ∀ c ∈ new.columns, ∃ typed, c.typed m.dialect = .ok typed) :
    (∃ l, m.tableChanges table = .ok l) ↔
      ∀ c ∈ new.columns, m.CanChangeColumn table (old.column? c.name) c := by
  cases hdatabase : m.databaseOf table with
  | none =>
    have hchanges : (∃ l, m.tableChanges table = .ok l) ↔
        ∃ l, columnChanges m.dialect old new.name false none new.columns = .ok l := by
      simp only [m.tableChanges_of_local hold hnew hdatabase, tableColumnChanges_iff, existsAndEq,
        and_true]
    rw [hchanges]
    refine exists_columnChanges_iff_forall (fun c hc previous => ?_) none
    rw [CanChangeColumn, hdatabase]
    exact exists_localChange_iff (htyped hdatabase c hc) (hdefault c hc)
  | some database =>
    have hchanges : (∃ l, m.tableChanges table = .ok l) ↔
        ∃ l, columnChanges m.dialect old new.name true none new.columns = .ok l := by
      simp only [m.tableChanges_of_mapped hold hnew hdatabase, tableColumnChanges_iff, existsAndEq,
        and_true]
    rw [hchanges]
    refine exists_columnChanges_iff_forall (fun c hc previous => ?_) none
    rw [CanChangeColumn, hdatabase]
    exact exists_viewChange_iff (hdefault c hc)

/-- **A run to a schema that can be created** succeeds when each column of a common table can be
changed.  On a table that stays in the database it can, unless types are compared and that of the
old column cannot be looked up; in a view it cannot when it has to be written and its type is not in
the vocabulary or its numbers are too long. -/
theorem sql_succeeds_iff (hcreation : (m.new.creation m.deployment).outcome = .ok l)
    (hold : m.old.HasQuietDefaults) (hnew : m.new.HasQuietDefaults) (bound : Int) :
    (∃ texts, (m.sql bound).outcome = .ok texts) ↔
      ∀ table ∈ m.common, ∀ old new, m.old.table? table = some old →
        m.new.table? table = some new →
          ∀ c ∈ new.columns, m.CanChangeColumn table (old.column? c.name) c := by
  have hsql : (∃ texts, (m.sql bound).outcome = .ok texts) ↔
      ∃ statements, m.run.outcome = .ok statements := by
    simp only [sql_eq_ok_iff]
    constructor
    · rintro ⟨texts, statements, hrun, -⟩
      exact ⟨statements, hrun⟩
    · rintro ⟨statements, hrun⟩
      exact ⟨_, statements, hrun, rfl⟩
  rw [hsql, exists_run_iff, and_iff_right fun t ht => m.exists_tableCreation hcreation ht]
  refine forall₂_congr fun table hcommon => ?_
  obtain ⟨old, new, hfoundOld, hfoundNew⟩ := m.tables_of_common hcommon
  have hdefault : ∀ c ∈ new.columns, ∀ o, old.column? c.name = some o →
      sameDefault? o.default c.default ≠ none := by
    intro c hc o ho
    have hquietOld := hold old (m.old.table?_eq_some hfoundOld).2 o (Table.column?_eq_some ho).1
    have hquietNew := hnew new (m.new.table?_eq_some hfoundNew).2 c hc
    exact hquietOld.sameDefault?_ne_none hquietNew
  rw [m.exists_tableChanges_iff hfoundOld hfoundNew hdefault (m.typed_of_local hcreation hfoundNew)]
  constructor
  · intro h _ _ ho hn
    cases hfoundOld.symm.trans ho
    cases hfoundNew.symm.trans hn
    exact h
  · exact fun h => h old new hfoundOld hfoundNew

/-! ## A view that gets a column -/

/-- A table that lives in another database gets a column of this type. -/
def viewGrowth (type : ColumnType) : Migration where
  old := ⟨[.table ⟨"t", [integerColumn "a"], none, none⟩]⟩
  new := ⟨[.table ⟨"t", [integerColumn "a",
    ⟨"b", type, 0, 0, true, none, none, false, false, none⟩], none, none⟩]⟩
  deployment := ⟨⟨.mysql, ""⟩, some ⟨⟨[("t", "other")]⟩, .empty, ["other"]⟩, none, .empty⟩
  allow := ⟨false, false, false⟩

/-- The columns of `viewGrowth` have no defaults. -/
theorem quiet_viewGrowth (type : ColumnType) :
    (viewGrowth type).old.HasQuietDefaults ∧ (viewGrowth type).new.HasQuietDefaults := by
  constructor
  · intro t ht c hc x hx
    rw [Entity.table.inj (List.mem_singleton.mp ht)] at hc
    rw [List.mem_singleton.mp hc] at hx
    cases hx
  · intro t ht c hc x hx
    rw [Entity.table.inj (List.mem_singleton.mp ht)] at hc
    rcases List.mem_pair.mp hc with rfl | rfl
    · cases hx
    · cases hx

/-- With a type of the vocabulary the view is made anew. -/
theorem viewGrowth_by_text :
    ((viewGrowth (.base .text)).new.creation (viewGrowth (.base .text)).deployment).outcome =
        .ok (viewStatements "t" "other") ∧
      (viewGrowth (.base .text)).old.HasQuietDefaults ∧
      (viewGrowth (.base .text)).new.HasQuietDefaults ∧
      ∃ texts, ((viewGrowth (.base .text)).sql defaultBound).outcome = .ok texts := by
  have hcreation : ((viewGrowth (.base .text)).new.creation
      (viewGrowth (.base .text)).deployment).outcome = .ok (viewStatements "t" "other") := rfl
  obtain ⟨hold, hnew⟩ := quiet_viewGrowth (.base .text)
  refine ⟨hcreation, hold, hnew, ((viewGrowth (.base .text)).sql_succeeds_iff hcreation hold hnew
    defaultBound).mpr ?_⟩
  intro table hcommon old new hfoundOld hfoundNew c hc
  have htable : table = "t" := by
    have hnames : (viewGrowth (.base .text)).common = ["t"] := by decide
    rwa [hnames, List.mem_singleton] at hcommon
  subst htable
  cases hfoundOld
  cases hfoundNew
  -- The first column stays, the second one is new and can be written.
  rcases List.mem_pair.mp hc with rfl | rfl
  · exact Or.inl (Or.inl rfl)
  · exact ⟨_, rfl⟩

/-- With another type the view can be created, but not by a run. -/
theorem no_viewGrowth_by_json :
    ((viewGrowth (.other (.text "json"))).new.creation
        (viewGrowth (.other (.text "json"))).deployment).outcome =
        .ok (viewStatements "t" "other") ∧
      (viewGrowth (.other (.text "json"))).old.HasQuietDefaults ∧
      (viewGrowth (.other (.text "json"))).new.HasQuietDefaults ∧
      ((viewGrowth (.other (.text "json"))).sql defaultBound).outcome =
        .error (.invariant (.unknownType "json" "b")) :=
  ⟨rfl, (quiet_viewGrowth _).1, (quiet_viewGrowth _).2, rfl⟩

end Migration

end SchemaPlan
