import SchemaPlan.Proofs.Column.OneLine
import SchemaPlan.Proofs.Statement.Terms

/-!
# Statements on one line

A statement whose names are one line is one line itself unless it writes a default with a line feed
or has a value with a line feed that is written as it stands.

* `Change.oneLine_sql_iff` is about changes of a table.
* `Statement.oneLine_sql_iff` is about all statements.
* `SeedRow.not_breaksLine_assign` says that a row that names no column twice writes as it stands only
  what it has without quotes.
-/
namespace SchemaPlan

open SchemaPlan.Text

variable {t : Target} {d : Dialect} {table : String}

/-! ## Values -/

/-- A value with a line feed that is written as it stands. -/
def SqlValue.BreaksLine : SqlValue → Prop
  | plain content => ¬ OneLine content.bytewise
  | _ => False

instance : DecidablePred SqlValue.BreaksLine
  | .plain content => inferInstanceAs (Decidable (¬ OneLine content.bytewise))
  | .null | .system _ | .quoted _ => inferInstanceAs (Decidable False)

theorem SqlValue.oneLine_sql_iff (v : SqlValue) (d : Dialect) :
    OneLine (v.sql d) ↔ ¬ v.BreaksLine := by
  cases v with
  | null => exact iff_of_true (show OneLine "NULL" by decide) id
  | system reference => exact iff_of_true (oneLine_system reference d) id
  | quoted content => exact iff_of_true (Sql.oneLine_literal d content) id
  | plain content => exact Decidable.not_not.symm

section Assignments

variable {values : List Assignment}

theorem oneLine_commaList_iff {names : List String} :
    OneLine (commaList names) ↔ ∀ name ∈ names, OneLine name :=
  oneLine_intercalate (by decide)

theorem oneLine_rowSql_iff :
    OneLine (rowSql d values) ↔ ∀ v ∈ values.map Assignment.value, ¬ v.BreaksLine := by
  rw [rowSql, oneLine_commaList_iff, List.forall_mem_map, List.forall_mem_map]
  simp only [SqlValue.oneLine_sql_iff]

theorem Assignment.oneLine_sql_iff {a : Assignment} (ha : OneLine a.column) :
    OneLine (a.sql d) ↔ ¬ a.value.BreaksLine := by
  have hequals : OneLine " = " := by decide
  rw [Assignment.sql, oneLine_append, oneLine_append, SqlValue.oneLine_sql_iff]
  simp only [ha, hequals, true_and]

theorem Assignment.oneLine_condition_iff {a : Assignment} (ha : OneLine a.column) :
    OneLine (a.condition d) ↔ ¬ a.value.BreaksLine := by
  unfold Assignment.condition
  split
  · rename_i hnull
    rw [hnull, oneLine_append]
    exact iff_of_true ⟨ha, by decide⟩ id
  · exact Assignment.oneLine_sql_iff ha

theorem oneLine_assignments_iff (h : ∀ name ∈ values.map Assignment.column, OneLine name) :
    OneLine (commaList (values.map (·.sql d))) ↔
      ∀ v ∈ values.map Assignment.value, ¬ v.BreaksLine := by
  rw [List.forall_mem_map] at h
  rw [oneLine_commaList_iff, List.forall_mem_map, List.forall_mem_map]
  exact forall₂_congr fun a ha => Assignment.oneLine_sql_iff (h a ha)

theorem oneLine_whereClause_iff (h : ∀ name ∈ values.map Assignment.column, OneLine name) :
    OneLine (whereClause d values) ↔ ∀ v ∈ values.map Assignment.value, ¬ v.BreaksLine := by
  have hword : OneLine " where " := by decide
  rw [List.forall_mem_map] at h
  unfold whereClause
  split_ifs with hempty
  · rw [List.isEmpty_iff.mp hempty]
    exact iff_of_true (by decide) (List.forall_mem_nil _)
  · rw [oneLine_append, oneLine_intercalate (by decide), List.forall_mem_map, List.forall_mem_map]
    simp only [hword, true_and]
    exact forall₂_congr fun a ha => Assignment.oneLine_condition_iff (h a ha)

end Assignments

/-! ## Names -/

/-- A column of an index without its length has no character that the column does not have. -/
theorem mem_of_mem_withoutLength {s : List Char} {c : Char} (h : c ∈ withoutLength s) : c ∈ s := by
  have hblanks {text : List Char} (hc : c ∈ text.dropWhile isBlank) : c ∈ text :=
    (List.dropWhile_sublist _).mem hc
  unfold withoutLength at h
  split at h
  · rename_i rest hend
    dsimp only at h
    split at h
    · rename_i front hfront
      split_ifs at h
      · exact h
      · have hmem : c ∈ '(' :: front := List.mem_cons_of_mem _ (hblanks (List.mem_reverse.mp h))
        rw [← hfront] at hmem
        have hrest : c ∈ ')' :: rest :=
          List.mem_cons_of_mem _ (hblanks (List.mem_of_mem_drop (hblanks hmem)))
        rw [← hend] at hrest
        exact List.mem_reverse.mp (hblanks hrest)
    · exact h
  · exact h

theorem oneLine_indexColumn {name : String} (h : OneLine name) (d : Dialect) :
    OneLine (indexColumn d name) := by
  cases d with
  | mysql => exact h
  | pgsql =>
    rw [indexColumn, OneLine, String.toList_ofList]
    exact fun hmem => h (mem_of_mem_withoutLength hmem)

theorem oneLine_foreignName (ht : OneLine t.localSchema) (h : OneLine table) :
    OneLine (foreignName t table) := by
  unfold foreignName
  split_ifs
  · exact h
  · exact oneLine_qualify ht h

theorem oneLine_kindText (i : Index) : OneLine i.kindText := by
  unfold Index.kindText
  split_ifs <;> decide

theorem oneLine_inlineSql {i : Index} (h : ∀ name ∈ i.names, OneLine name) :
    OneLine i.inlineSql := by
  simp only [Index.names, List.forall_mem_cons] at h
  simp only [Index.inlineSql, oneLine_append, oneLine_kindText, oneLine_commaList_iff, h.1, true_and]
  exact ⟨⟨⟨by decide, by decide⟩, h.2.2⟩, by decide⟩

theorem oneLine_place {place : ColumnPlace} (h : ∀ name ∈ place.names, OneLine name) :
    OneLine place.sql := by
  cases place with
  | unplaced => decide
  | first => decide
  | after column =>
    rw [ColumnPlace.sql, oneLine_append]
    exact ⟨by decide, List.forall_mem_singleton.mp h⟩

/-! ## Changes of a table -/

theorem TypedColumn.oneLine_type {c : TypedColumn} (h : c.column.typed d = .ok c) :
    OneLine c.type := by
  obtain ⟨type, htype, -, heq⟩ := Column.typed_eq_ok_iff.mp h
  rw [heq]
  exact Column.oneLine_sqlType htype

theorem TypedColumn.oneLine_sql_iff {c : TypedColumn} (ht : OneLine t.localSchema)
    (htable : OneLine table) (hname : OneLine c.column.name)
    (htyped : c.column.typed t.dialect = .ok c) :
    OneLine (c.sql table t) ↔ ¬ c.column.BreaksLine t.dialect :=
  Column.oneLine_definitionWith_iff ht htable hname (TypedColumn.oneLine_type htyped)

theorem oneLine_addForeignKey (ht : OneLine t.localSchema) {k : ForeignKey}
    (hk : ∀ name ∈ k.names, OneLine name) : OneLine ((Change.addForeignKey k).sql table t) := by
  simp only [ForeignKey.names, List.forall_mem_cons, List.forall_mem_append] at hk
  obtain ⟨hname, -, hforeign, hcolumns, hforeignColumns⟩ := hk
  have hown := oneLine_commaList_iff.mpr hcolumns
  have hothers := oneLine_commaList_iff.mpr hforeignColumns
  show OneLine ("add constraint " ++ k.name ++ " foreign key (" ++
    commaList (k.columns.map KeyPair.column) ++ ") references " ++ foreignName t k.foreignTable ++
    " (" ++ commaList (k.columns.map KeyPair.foreignColumn) ++ ")")
  simp only [oneLine_append, hname, hown, oneLine_foreignName ht hforeign, hothers, and_true]
  decide

/-- A change that writes no default. -/
theorem Change.oneLine_sql {change : Change} (ht : OneLine t.localSchema) (htable : OneLine table)
    (hnames : ∀ name ∈ change.names, OneLine name)
    (htyped : ∀ c ∈ change.typedColumns, c.column.typed t.dialect = .ok c)
    (hdefined : change.definedColumns = []) : OneLine (change.sql table t) := by
  cases change with
  | dropColumn column =>
    show OneLine ("drop column " ++ column ++ _)
    rw [oneLine_append, oneLine_append]
    refine ⟨⟨by decide, List.forall_mem_singleton.mp hnames⟩, ?_⟩
    split <;> decide
  | setType c =>
    show OneLine ("alter column " ++ c.column.name ++ " type " ++ c.type)
    have htype := TypedColumn.oneLine_type (htyped c List.mem_cons_self)
    have hname : OneLine c.column.name := List.forall_mem_singleton.mp hnames
    simp only [oneLine_append, hname, htype, and_true]
    decide
  | setNullable column nullable =>
    show OneLine ("alter column " ++ column ++ if nullable then " drop not null" else " set not null")
    rw [oneLine_append, oneLine_append]
    refine ⟨⟨by decide, List.forall_mem_singleton.mp hnames⟩, ?_⟩
    split_ifs <;> decide
  | dropPrimaryKey =>
    unfold Change.sql
    dsimp only
    split
    · decide
    · rw [oneLine_append, oneLine_append]
      exact ⟨⟨by decide, htable⟩, by decide⟩
  | addPrimaryKey columns =>
    show OneLine ("add primary key (" ++ commaList columns ++ ")")
    rw [oneLine_append, oneLine_append, oneLine_commaList_iff]
    exact ⟨⟨by decide, hnames⟩, by decide⟩
  | dropForeignKey key =>
    have hkey : OneLine key := List.forall_mem_singleton.mp hnames
    unfold Change.sql
    dsimp only
    split
    · exact oneLine_append.mpr ⟨by decide, hkey⟩
    · exact oneLine_append.mpr ⟨by decide, hkey⟩
  | addForeignKey k => exact oneLine_addForeignKey ht hnames
  | addColumn c place => cases hdefined
  | changeColumn c place => cases hdefined
  | setDefault c => cases hdefined

/-- **A change of a table** is one line unless it writes a default with a line feed. -/
theorem Change.oneLine_sql_iff {change : Change} (ht : OneLine t.localSchema)
    (htable : OneLine table) (hnames : ∀ name ∈ change.names, OneLine name)
    (htyped : ∀ c ∈ change.typedColumns, c.column.typed t.dialect = .ok c) :
    OneLine (change.sql table t) ↔ ∀ c ∈ change.definedColumns, ¬ c.BreaksLine t.dialect := by
  by_cases hdefined : change.definedColumns = []
  · rw [hdefined]
    exact iff_of_true (Change.oneLine_sql ht htable hnames htyped hdefined) (List.forall_mem_nil _)
  · cases change with
    | addColumn c place =>
      obtain ⟨hname, hplace⟩ := List.forall_mem_cons.mp hnames
      have hword : OneLine "add column " := by decide
      have hc := TypedColumn.oneLine_sql_iff ht htable hname (htyped c List.mem_cons_self)
      show OneLine ("add column " ++ c.sql table t ++ place.sql) ↔ ∀ x ∈ [c.column], _
      rw [oneLine_append, oneLine_append, hc, List.forall_mem_singleton]
      simp only [hword, oneLine_place hplace, true_and, and_true]
    | changeColumn c place =>
      obtain ⟨hname, hplace⟩ := List.forall_mem_cons.mp hnames
      have hword : OneLine "change column " := by decide
      have hblank : OneLine " " := by decide
      have hc := TypedColumn.oneLine_sql_iff ht htable hname (htyped c List.mem_cons_self)
      show OneLine ("change column " ++ c.column.name ++ " " ++ c.sql table t ++ place.sql) ↔
        ∀ x ∈ [c.column], _
      simp only [oneLine_append, hc, List.forall_mem_singleton, hword, hname, hblank,
        oneLine_place hplace, true_and, and_true]
    | setDefault c =>
      have hname : OneLine c.name := List.forall_mem_singleton.mp hnames
      have hword : OneLine "alter column " := by decide
      have hset : OneLine " set " := by decide
      show OneLine ("alter column " ++ c.name ++ " set " ++ c.defaultSql table t) ↔ ∀ x ∈ [c], _
      rw [List.forall_mem_singleton, ← Column.oneLine_defaultSql_iff ht htable]
      simp only [oneLine_append, hword, hname, hset, true_and]
    | _ => exact absurd rfl hdefined

/-! ## Statements -/

/-- A statement that writes a default or a value with a line feed as it stands. -/
def Statement.BreaksLine (d : Dialect) (s : Statement) : Prop :=
  (∃ c ∈ s.definedColumns, c.BreaksLine d) ∨ ∃ v ∈ s.values, v.BreaksLine

instance (d : Dialect) (s : Statement) : Decidable (s.BreaksLine d) :=
  inferInstanceAs (Decidable (_ ∨ _))

theorem Statement.not_breaksLine_iff {s : Statement} :
    ¬ s.BreaksLine d ↔
      (∀ c ∈ s.definedColumns, ¬ c.BreaksLine d) ∧ ∀ v ∈ s.values, ¬ v.BreaksLine := by
  simp [Statement.BreaksLine]

theorem oneLine_insertSql (ht : OneLine t.localSchema) (htable : OneLine table)
    {values : List Assignment} (h : ∀ name ∈ values.map Assignment.column, OneLine name) :
    OneLine (insertSql t table values) := by
  have hcolumns := oneLine_commaList_iff.mpr h
  simp only [insertSql, oneLine_append, oneLine_qualify ht htable, hcolumns, and_true]
  decide

theorem oneLine_tableOptions (d : Dialect) : OneLine (tableOptions d) := by
  cases d <;> decide

theorem oneLine_tableParts_iff (ht : OneLine t.localSchema) (htable : OneLine table)
    {columns : List TypedColumn} {primaryKey : Option (List String)} {indexes : List Index}
    (hcolumns : ∀ c ∈ columns, OneLine c.column.name ∧ c.column.typed t.dialect = .ok c)
    (hkey : ∀ name ∈ primaryKey.getD [], OneLine name)
    (hindexes : ∀ i ∈ indexes, ∀ name ∈ i.names, OneLine name) :
    OneLine (commaList (tableParts t table columns primaryKey indexes)) ↔
      ∀ c ∈ columns.map TypedColumn.column, ¬ c.BreaksLine t.dialect := by
  have hinline : ∀ s ∈ indexes.map Index.inlineSql, OneLine s :=
    List.forall_mem_map.mpr fun i hi => oneLine_inlineSql (hindexes i hi)
  have hdefinitions : (∀ s ∈ columns.map (·.sql table t), OneLine s) ↔
      ∀ c ∈ columns.map TypedColumn.column, ¬ c.BreaksLine t.dialect := by
    rw [List.forall_mem_map, List.forall_mem_map]
    exact forall₂_congr fun c hc =>
      TypedColumn.oneLine_sql_iff ht htable (hcolumns c hc).1 (hcolumns c hc).2
  rw [oneLine_commaList_iff]
  unfold tableParts
  rw [List.forall_mem_append, List.forall_mem_append, hdefinitions]
  refine ⟨fun h => h.1.1, fun h => ⟨⟨h, ?_⟩, hinline⟩⟩
  cases primaryKey with
  | none => exact List.forall_mem_nil _
  | some key =>
    rw [List.forall_mem_singleton, oneLine_append, oneLine_append, oneLine_commaList_iff]
    exact ⟨⟨by decide, hkey⟩, by decide⟩

theorem oneLine_createIndex (ht : OneLine t.localSchema) {i : Index}
    (hi : ∀ name ∈ i.names, OneLine name) : OneLine ((Statement.createIndex i).sql t) := by
  simp only [Index.names, List.forall_mem_cons] at hi
  obtain ⟨hname, htable, hnames⟩ := hi
  have hcolumns : OneLine (commaList (i.columns.map (indexColumn t.dialect))) :=
    oneLine_commaList_iff.mpr (List.forall_mem_map.mpr fun column hcolumn =>
      oneLine_indexColumn (hnames column hcolumn) t.dialect)
  show OneLine ("create " ++ i.kindText ++ "index " ++ i.name ++ " on " ++ t.qualify i.table ++
    " (" ++ commaList (i.columns.map (indexColumn t.dialect)) ++ ")")
  simp only [oneLine_append, oneLine_kindText, hname, oneLine_qualify ht htable, hcolumns, and_true]
  decide

namespace Statement

variable {s : Statement}

theorem oneLine_createTable_iff (ht : OneLine t.localSchema) {columns : List TypedColumn}
    {primaryKey : Option (List String)} {indexes : List Index}
    (hnames : ∀ name ∈ (createTable table columns primaryKey indexes).names, OneLine name)
    (htyped : ∀ c ∈ columns, c.column.typed t.dialect = .ok c) :
    OneLine ((createTable table columns primaryKey indexes).sql t) ↔
      ∀ c ∈ columns.map TypedColumn.column, ¬ c.BreaksLine t.dialect := by
  simp only [names, List.forall_mem_cons, List.forall_mem_append, List.forall_mem_map] at hnames
  obtain ⟨htable, ⟨hcolumns, hkey⟩, hindexes⟩ := hnames
  have hparts := oneLine_tableParts_iff ht htable (fun c hc => ⟨hcolumns c hc, htyped c hc⟩) hkey
    fun i hi name hname => hindexes name (List.mem_flatMap.mpr ⟨i, hi, hname⟩)
  have hwords : OneLine "create table " ∧ OneLine " (" ∧ OneLine ")" := by decide
  show OneLine ("create table " ++ t.qualify table ++ " (" ++
    commaList (tableParts t table columns primaryKey indexes) ++ ")" ++ tableOptions t.dialect) ↔ _
  simp only [oneLine_append, hwords, oneLine_qualify ht htable, hparts,
    oneLine_tableOptions t.dialect, and_true, true_and]

theorem oneLine_insertUnless_iff (ht : OneLine t.localSchema) {values conditions : List Assignment}
    (hnames : ∀ name ∈ (insertUnless table values conditions).names, OneLine name) :
    OneLine ((insertUnless table values conditions).sql t) ↔
      ∀ v ∈ (insertUnless table values conditions).values, ¬ v.BreaksLine := by
  obtain ⟨htable, hcolumns⟩ := List.forall_mem_cons.mp hnames
  obtain ⟨hvalues, hconditions⟩ := List.forall_mem_append.mp hcolumns
  have hwords : OneLine " select " ∧ OneLine " where not exists (select 1 from " ∧ OneLine ")" := by
    decide
  have hfrom : OneLine " from dual" ∧ OneLine "" := by decide
  show OneLine (insertSql t table values ++ " select " ++ rowSql t.dialect values ++ _ ++
    " where not exists (select 1 from " ++ t.qualify table ++
    whereClause t.dialect conditions ++ ")") ↔
      ∀ v ∈ values.map Assignment.value ++ conditions.map Assignment.value, _
  simp only [oneLine_append, hwords, oneLine_insertSql ht htable hvalues, oneLine_rowSql_iff,
    oneLine_qualify ht htable, oneLine_whereClause_iff hconditions, List.forall_mem_append, and_true,
    true_and]
  -- One dialect selects from a table of its own.
  split
  · simp only [hfrom.1, and_true]
  · simp only [hfrom.2, and_true]

theorem oneLine_update_iff (ht : OneLine t.localSchema) {values conditions : List Assignment}
    (hnames : ∀ name ∈ (update table values conditions).names, OneLine name) :
    OneLine ((update table values conditions).sql t) ↔
      ∀ v ∈ (update table values conditions).values, ¬ v.BreaksLine := by
  obtain ⟨htable, hcolumns⟩ := List.forall_mem_cons.mp hnames
  obtain ⟨hvalues, hconditions⟩ := List.forall_mem_append.mp hcolumns
  have hwords : OneLine "update " ∧ OneLine " set " := by decide
  show OneLine ("update " ++ t.qualify table ++ " set " ++ commaList (values.map (·.sql t.dialect)) ++
    whereClause t.dialect conditions) ↔
      ∀ v ∈ values.map Assignment.value ++ conditions.map Assignment.value, _
  simp only [oneLine_append, hwords, oneLine_qualify ht htable, oneLine_assignments_iff hvalues,
    oneLine_whereClause_iff hconditions, List.forall_mem_append, and_true, true_and]

/-- **A statement is one line** unless it writes a default or a value with a line feed. -/
theorem oneLine_sql_iff (ht : OneLine t.localSchema) {P : Terms}
    (hP : ∀ name, P.name name → OneLine name) (hs : s.WrittenFor t.dialect P) :
    OneLine (s.sql t) ↔ ¬ s.BreaksLine t.dialect := by
  have hnone : (∀ c ∈ ([] : List Column), ¬ c.BreaksLine t.dialect) ∧
      ∀ v ∈ ([] : List SqlValue), ¬ v.BreaksLine :=
    ⟨List.forall_mem_nil _, List.forall_mem_nil _⟩
  have hnames : ∀ name ∈ s.names, OneLine name := fun name hname => hP name (hs.names name hname)
  rw [not_breaksLine_iff]
  cases s with
  | dropTable table =>
    have htable := oneLine_qualify ht (List.forall_mem_singleton.mp hnames)
    exact iff_of_true (oneLine_append.mpr ⟨by decide, htable⟩) hnone
  | dropView table =>
    have htable := oneLine_qualify ht (List.forall_mem_singleton.mp hnames)
    exact iff_of_true (oneLine_append.mpr ⟨by decide, htable⟩) hnone
  | createView table database =>
    obtain ⟨htable, hdatabase⟩ := List.forall_mem_cons.mp hnames
    refine iff_of_true ?_ hnone
    show OneLine ("create or replace view " ++ t.qualify table ++ " as select * from " ++ database ++
      "." ++ table)
    simp only [oneLine_append, oneLine_qualify ht htable, List.forall_mem_singleton.mp hdatabase,
      htable, and_true]
    decide
  | dropSequence table =>
    have hsequence := oneLine_sequence ht (List.forall_mem_singleton.mp hnames)
    exact iff_of_true (oneLine_append.mpr ⟨by decide, hsequence⟩) hnone
  | createSequence table =>
    have hsequence := oneLine_sequence ht (List.forall_mem_singleton.mp hnames)
    exact iff_of_true (oneLine_append.mpr ⟨by decide, hsequence⟩) hnone
  | ensureSequence table =>
    have hsequence := oneLine_sequence ht (List.forall_mem_singleton.mp hnames)
    exact iff_of_true (oneLine_append.mpr ⟨by decide, hsequence⟩) hnone
  | createTable table columns primaryKey indexes =>
    rw [oneLine_createTable_iff ht hnames hs.typed]
    exact ⟨fun h => ⟨h, hnone.2⟩, fun h => h.1⟩
  | createIndex i => exact iff_of_true (oneLine_createIndex ht hnames) hnone
  | dropIndex table index =>
    obtain ⟨htable, hindex⟩ := List.forall_mem_cons.mp hnames
    rw [List.forall_mem_singleton] at hindex
    refine iff_of_true ?_ hnone
    unfold sql
    dsimp only
    split
    · simp only [oneLine_append, oneLine_qualify ht htable, hindex, and_true]
      decide
    · exact oneLine_append.mpr ⟨by decide, oneLine_qualify ht hindex⟩
  | alter table change =>
    obtain ⟨htable, hchange⟩ := List.forall_mem_cons.mp hnames
    have hwords : OneLine "alter table " ∧ OneLine " " := by decide
    show OneLine ("alter table " ++ t.qualify table ++ " " ++ change.sql table t) ↔ _
    simp only [oneLine_append, hwords, oneLine_qualify ht htable,
      Change.oneLine_sql_iff ht htable hchange hs.typed, true_and]
    exact ⟨fun h => ⟨h, hnone.2⟩, fun h => h.1⟩
  | insert table values =>
    obtain ⟨htable, hcolumns⟩ := List.forall_mem_cons.mp hnames
    have hwords : OneLine " values (" ∧ OneLine ")" := by decide
    show OneLine (insertSql t table values ++ " values (" ++ rowSql t.dialect values ++ ")") ↔ _
    simp only [oneLine_append, hwords, oneLine_insertSql ht htable hcolumns, oneLine_rowSql_iff,
      true_and, and_true]
    exact ⟨fun h => ⟨hnone.1, h⟩, fun h => h.2⟩
  | insertUnless table values conditions =>
    rw [oneLine_insertUnless_iff ht hnames]
    exact ⟨fun h => ⟨hnone.1, h⟩, fun h => h.2⟩
  | update table values conditions =>
    rw [oneLine_update_iff ht hnames]
    exact ⟨fun h => ⟨hnone.1, h⟩, fun h => h.2⟩

end Statement

/-! ## Seed rows -/

namespace SeedRow

variable {r : SeedRow} {deployment : Deployment} {contents : Contents}

/-- Resolving columns of other names changes nothing of what is known of a name. -/
theorem get?_of_resolveFrom_of_not_mem {known : Contents} {columns : List SeedColumn} {name : String}
    (hname : name ∉ columns.map SeedColumn.name)
    (h : (resolveFrom deployment known columns).outcome = .ok contents) :
    contents.get? name = known.get? name := by
  induction columns generalizing known with
  | nil =>
    cases h
    rfl
  | cons c rest ih =>
    rw [List.map_cons, List.mem_cons, not_or] at hname
    rw [resolveFrom] at h
    split_ifs at h with hsystem
    · exact ih hname.2 h
    · rw [Noted.outcome_bind, bind_eq_ok_iff] at h
      obtain ⟨content, -, h⟩ := h
      rw [ih hname.2 h, Ordered.get?_put, if_neg hname.1]

/-- Where no column is named twice, a literal is the content of its column. -/
theorem get?_of_resolveFrom_of_nodup {known : Contents} {columns : List SeedColumn}
    (hdistinct : (columns.map SeedColumn.name).Nodup)
    (h : (resolveFrom deployment known columns).outcome = .ok contents) {c : SeedColumn}
    (hc : c ∈ columns) {value : Option Content} (hvalue : c.source = .literal value) :
    contents.get? c.name = some value := by
  induction columns generalizing known with
  | nil => exact absurd hc List.not_mem_nil
  | cons first rest ih =>
    obtain ⟨hfirst, hrest⟩ := List.nodup_cons.mp hdistinct
    rw [resolveFrom] at h
    rcases List.mem_cons.mp hc with rfl | hmem
    · have hplain : ¬ c.source.isSystem = true := by rw [hvalue]; exact Bool.false_ne_true
      rw [if_neg hplain, Noted.outcome_bind, bind_eq_ok_iff] at h
      obtain ⟨content, hcontent, h⟩ := h
      rw [hvalue] at hcontent
      cases hcontent
      rw [get?_of_resolveFrom_of_not_mem hfirst h, Ordered.get?_put, if_pos rfl]
    · split_ifs at h with hsystem
      · exact ih hrest h hmem
      · rw [Noted.outcome_bind, bind_eq_ok_iff] at h
        obtain ⟨content, -, h⟩ := h
        exact ih hrest h hmem

/-- A row that names no column twice and whose literals without quotes are one line. -/
structure IsPlain (r : SeedRow) : Prop where
  distinct : (r.columns.map SeedColumn.name).Nodup
  literals : ∀ c ∈ r.columns, c.quoted = false →
    ∀ content, c.source = .literal (some content) → OneLine content.bytewise

/-- **A row that names no column twice** writes as it stands only its literals without quotes. -/
theorem not_breaksLine_assign (hr : r.IsPlain)
    (hcontents : (r.resolve deployment).outcome = .ok contents) {c : SeedColumn}
    (hc : c ∈ r.columns) : ¬ (assign contents c).value.BreaksLine := by
  show ¬ (c.value ((contents.get? c.name).getD none)).BreaksLine
  unfold SeedColumn.value
  split
  · exact id
  · exact id
  · exact id
  · rename_i value content hvalue hcontent
    split_ifs with hquoted
    · exact id
    · rw [get?_of_resolveFrom_of_nodup hr.distinct hcontents hc hvalue] at hcontent
      have hsource : c.source = .literal (some content) := by rw [hvalue]; exact congrArg _ hcontent
      exact not_not_intro (hr.literals c hc (Bool.eq_false_iff.mpr hquoted) content hsource)

end SeedRow

end SchemaPlan
