import SchemaPlan.Proofs.Column.Typed
import SchemaPlan.Proofs.Migration.TableShape
import SchemaPlan.Proofs.Schema.Equality

/-!
# The columns of a changed table

On the dialect that places columns the changes of a table lead from its old columns to its new ones,
in their order.  The changes go through the new columns from left to right; what is behind the
columns that are done are the old columns of those to come, in the order of the new table.

* `replay_columnChange` is the step for one column, `replay_columnChanges` the run over all of them.
* `exists_columnChanges_iff` says when the changes can be written: the numbers of every column that
  is new or different have to be short enough.
* The section on tables puts the drops, the changes and the primary key together.
-/
namespace SchemaPlan

open TableShape

variable {old new : Table} {table : String} {previous : Option String} {l : List Statement}
  {primaryKey : Option (List String)}

/-! ## Old columns -/

/-- The columns of the old table that have the names of these columns, in their order. -/
def oldColumns (old : Table) (columns : List Column) : List Column :=
  columns.filterMap fun c => old.column? c.name

theorem oldColumns_cons (old : Table) (c : Column) (rest : List Column) :
    oldColumns old (c :: rest) = (old.column? c.name).toList ++ oldColumns old rest := by
  unfold oldColumns
  rw [List.filterMap_cons]
  cases old.column? c.name with
  | none => rfl
  | some o => rfl

theorem name_mem_of_mem_oldColumns {columns : List Column} {o : Column}
    (h : o ∈ oldColumns old columns) : o.name ∈ columns.map Column.name := by
  obtain ⟨c, hc, ho⟩ := List.mem_filterMap.mp h
  rw [(Table.column?_eq_some ho).2]
  exact List.mem_map_of_mem hc

/-! ## One column -/

/-- The change of a column puts it behind the columns before it, in place of the old one if there is
one. -/
theorem replay_columnChange (primaryKey : Option (List String)) {c : Column}
    {before rest : List Column}
    (h : columnChange .mysql table false (before.getLast?.map Column.name) (old.column? c.name) c =
      .ok l)
    (hself : c.same? c = some true) (hbefore : (before.map Column.name).Nodup)
    (hnew : c.name ∉ before.map Column.name) (hrest : c.name ∉ rest.map Column.name) :
    ∃ d, replay table ⟨before ++ ((old.column? c.name).toList ++ rest), primaryKey⟩ l =
        some ⟨before ++ d :: rest, primaryKey⟩ ∧ d.same? c = some true := by
  have htyped : ∀ typed, c.typed .mysql = .ok typed → typed.column = c := by
    intro typed htyped
    obtain ⟨type, -, -, rfl⟩ := Column.typed_eq_ok_iff.mp htyped
    rfl
  cases hold : old.column? c.name with
  | none =>
    rw [hold] at h
    obtain ⟨typed, hok, rfl⟩ := columnChange_none_iff.mp h
    have hcolumn := htyped typed hok
    refine ⟨c, ?_, hself⟩
    rw [if_neg (by simp), List.nil_append, replay_singleton]
    subst hcolumn
    exact apply_addColumn hbefore hnew hrest
  | some o =>
    rw [hold] at h
    have ho := (Table.column?_eq_some hold).2
    rcases columnChange_some_iff.mp h with ⟨hsame, rfl⟩ | ⟨-, hview, -⟩ | ⟨-, -, hwhole⟩
    · exact ⟨o, rfl, hsame⟩
    · cases hview
    · obtain ⟨typed, hok, rfl⟩ := wholeChange_mysql_iff.mp hwhole
      have hcolumn := htyped typed hok
      refine ⟨c, ?_, hself⟩
      rw [replay_singleton]
      subst hcolumn
      exact apply_changeColumn ho hbefore hnew hrest

/-! ## All columns -/

/-- The changes of the columns to come put them behind those before them, one after the other. -/
theorem replay_columnChanges (primaryKey : Option (List String)) {todo : List Column}
    (before : List Column)
    (h : columnChanges .mysql old table false (before.getLast?.map Column.name) todo = .ok l)
    (hself : ∀ c ∈ todo, c.same? c = some true)
    (hnames : (before.map Column.name ++ todo.map Column.name).Nodup) :
    ∃ done, replay table ⟨before ++ oldColumns old todo, primaryKey⟩ l =
        some ⟨before ++ done, primaryKey⟩ ∧
      List.Forall₂ (fun d c => d.same? c = some true) done todo := by
  induction todo generalizing before l with
  | nil =>
    cases h
    exact ⟨[], rfl, .nil⟩
  | cons c rest ih =>
    obtain ⟨first, others, hfirst, hothers, rfl⟩ := columnChanges_cons_iff.mp h
    rw [List.map_cons, List.nodup_append, List.nodup_cons] at hnames
    obtain ⟨hbefore, ⟨hc, hrest⟩, hdisjoint⟩ := hnames
    -- No other column bears the name of this one, before it or behind it.
    have hnew : c.name ∉ before.map Column.name := fun hmem =>
      hdisjoint _ hmem _ List.mem_cons_self rfl
    have hold : c.name ∉ (oldColumns old rest).map Column.name := by
      intro hmem
      obtain ⟨o, ho, hname⟩ := List.mem_map.mp hmem
      exact hc (hname ▸ name_mem_of_mem_oldColumns ho)
    obtain ⟨d, hd, hsame⟩ := replay_columnChange primaryKey hfirst (hself c List.mem_cons_self)
      hbefore hnew hold
    have hname : d.name = c.name := Column.name_of_same? hsame
    -- Now it is the last of the columns before the next one.
    have hlast : some c.name = (before ++ [d]).getLast?.map Column.name := by
      rw [List.getLast?_concat, Option.map_some, hname]
    have hnames' : ((before ++ [d]).map Column.name ++ rest.map Column.name).Nodup := by
      rw [List.map_append, List.map_singleton, hname, List.append_assoc, List.singleton_append,
        List.nodup_append, List.nodup_cons]
      exact ⟨hbefore, ⟨hc, hrest⟩, hdisjoint⟩
    rw [hlast] at hothers
    obtain ⟨done, hdone, hall⟩ := ih (before ++ [d]) hothers
      (fun c hc => hself c (List.mem_cons_of_mem _ hc)) hnames'
    refine ⟨d :: done, ?_, .cons hsame hall⟩
    rw [List.append_assoc, List.append_assoc, List.singleton_append, List.singleton_append] at hdone
    rw [replay_append, oldColumns_cons, hd, Option.bind_some]
    exact hdone

/-- The drops leave the columns that the new table has too. -/
theorem replay_columnDrops (h : (old.columns.map Column.name).Nodup) :
    replay new.name ⟨old.columns, primaryKey⟩ (columnDrops .mysql old new) =
      some ⟨old.columns.filter fun c => (new.column? c.name).isSome, primaryKey⟩ := by
  have hrun : ∀ rest kept : List Column, (kept.map Column.name ++ rest.map Column.name).Nodup →
      replay new.name ⟨kept ++ rest, primaryKey⟩
          (columnDrops .mysql { old with columns := rest } new) =
        some ⟨kept ++ rest.filter fun c => (new.column? c.name).isSome, primaryKey⟩ := by
    intro rest
    induction rest with
    | nil => exact fun _ _ => rfl
    | cons c rest ih =>
      intro kept hnames
      rw [columnDrops, List.flatMap_cons, replay_append]
      by_cases hc : (new.column? c.name).isSome
      · rw [if_pos hc, List.filter_cons_of_pos (by exact hc), List.append_cons kept c rest]
        refine (ih (kept ++ [c]) (by simpa using hnames)).trans ?_
        rw [List.append_assoc]
        rfl
      · -- The column is found where it is, and the others stay.
        rw [List.map_cons, List.nodup_append, List.nodup_cons] at hnames
        obtain ⟨hkept, ⟨hrest, hnodup⟩, hdisjoint⟩ := hnames
        have hother : c.name ∉ kept.map Column.name := fun hmem =>
          hdisjoint _ hmem _ List.mem_cons_self rfl
        rw [if_neg hc, if_neg (by simp), replay_singleton, apply_dropColumn hother hrest,
          List.filter_cons_of_neg (by simpa using hc)]
        refine ih kept (List.nodup_append.mpr ⟨hkept, hnodup, ?_⟩)
        exact fun a ha b hb => hdisjoint a ha b (List.mem_cons_of_mem _ hb)
  exact hrun old.columns [] h

/-! ## The order of shared columns -/

/-- The names of the columns that another table has too, in order. -/
def Table.sharedNames (t other : Table) : List String :=
  (t.columns.map Column.name).filter fun name => (other.column? name).isSome

/-- When the shared columns stand in one order in both tables, those that the drops leave are those
that the changes count on. -/
theorem filter_columns_eq_oldColumns (hnames : (old.columns.map Column.name).Nodup)
    (horder : old.sharedNames new = new.sharedNames old) :
    (old.columns.filter fun c => (new.column? c.name).isSome) = oldColumns old new.columns := by
  -- Old columns are determined by their names, so it is enough to compare the names.
  have hown : ∀ columns : List Column, (∀ c ∈ columns, c ∈ old.columns) →
      (columns.map Column.name).filterMap old.column? = columns := by
    intro columns hsub
    rw [List.filterMap_map]
    refine (List.filterMap_congr fun c hc => ?_).trans List.filterMap_some
    exact Table.column?_name hnames (hsub c hc)
  have hleft : old.sharedNames new =
      (old.columns.filter fun c => (new.column? c.name).isSome).map Column.name := by
    rw [Table.sharedNames, List.filter_map]
    rfl
  have hright : (new.sharedNames old).filterMap old.column? = oldColumns old new.columns := by
    rw [Table.sharedNames, List.filterMap_filter, oldColumns, List.filterMap_map]
    refine List.filterMap_congr fun c _ => ?_
    show (if (old.column? c.name).isSome then old.column? c.name else none) = old.column? c.name
    cases old.column? c.name with
    | none => rfl
    | some o => rfl
  rw [← hright, ← horder, hleft]
  exact (hown _ fun c hc => List.mem_of_mem_filter hc).symm

/-! ## Changes that can be written -/

/-- The old table has a column that is equal to this one. -/
def Column.IsUnchangedFrom (c : Column) (old : Table) : Prop :=
  ∃ o, old.column? c.name = some o ∧ o.same? c = some true

/-- A change of a column can be written when there is nothing to change or its definition can be
written. -/
theorem exists_columnChange_iff (table : String) (previous : Option String) {c : Column}
    (hcompare : ∀ o, old.column? c.name = some o → o.same? c ≠ none) :
    (∃ l, columnChange .mysql table false previous (old.column? c.name) c = .ok l) ↔
      c.IsUnchangedFrom old ∨ ∃ typed, c.typed .mysql = .ok typed := by
  unfold Column.IsUnchangedFrom
  cases hold : old.column? c.name with
  | none =>
    constructor
    · rintro ⟨l, h⟩
      obtain ⟨typed, htyped, -⟩ := columnChange_none_iff.mp h
      exact Or.inr ⟨typed, htyped⟩
    · rintro (⟨o, ho, -⟩ | ⟨typed, htyped⟩)
      · cases ho
      · exact ⟨_, columnChange_none_iff.mpr ⟨typed, htyped, rfl⟩⟩
  | some o =>
    constructor
    · rintro ⟨l, h⟩
      rcases columnChange_some_iff.mp h with ⟨hsame, -⟩ | ⟨-, hview, -⟩ | ⟨-, -, hwhole⟩
      · exact Or.inl ⟨o, rfl, hsame⟩
      · cases hview
      · obtain ⟨typed, htyped, -⟩ := wholeChange_mysql_iff.mp hwhole
        exact Or.inr ⟨typed, htyped⟩
    · rintro (⟨_, ho, hsame⟩ | ⟨typed, htyped⟩)
      · cases ho
        exact ⟨[], columnChange_some_iff.mpr (Or.inl ⟨hsame, rfl⟩)⟩
      · cases hsame : o.same? c with
        | none => exact absurd hsame (hcompare o hold)
        | some answer =>
          cases answer with
          | true => exact ⟨[], columnChange_some_iff.mpr (Or.inl ⟨hsame, rfl⟩)⟩
          | false =>
            have hwhole : wholeChange .mysql table previous o c =
                .ok [.alter table (.changeColumn typed (placeAfter .mysql previous))] :=
              wholeChange_mysql_iff.mpr ⟨typed, htyped, rfl⟩
            exact ⟨_, columnChange_some_iff.mpr (Or.inr (Or.inr ⟨hsame, nofun, hwhole⟩))⟩

theorem exists_columnChanges_iff (previous : Option String) {todo : List Column}
    (hcompare : ∀ c ∈ todo, ∀ o, old.column? c.name = some o → o.same? c ≠ none) :
    (∃ l, columnChanges .mysql old table false previous todo = .ok l) ↔
      ∀ c ∈ todo, c.IsUnchangedFrom old ∨ ∃ typed, c.typed .mysql = .ok typed :=
  exists_columnChanges_iff_forall (fun c hc previous =>
    exists_columnChange_iff table previous (hcompare c hc)) previous

/-! ## Tables -/

/-- **The table after its changes.**  Between regular tables whose shared columns stand in one order
the changes can be written exactly when the numbers of each new or different column fit.  Replayed
over the old table they then give the columns and the primary key of the new one. -/
theorem table_after_changes (hold : old.IsRegular) (hnew : new.IsRegular)
    (horder : old.sharedNames new = new.sharedNames old) :
    ((∃ statements, tableColumnChanges .mysql old new false true = .ok statements) ↔
      ∀ c ∈ new.columns, c.IsUnchangedFrom old ∨ c.NumbersFit .mysql) ∧
    ∀ statements, tableColumnChanges .mysql old new false true = .ok statements →
      ∃ columns, replay new.name ⟨old.columns, old.primaryKey⟩
          (statements ++ primaryKeyChanges old new) = some ⟨columns, new.primaryKey⟩ ∧
        sameColumns? columns new.columns = some true := by
  constructor
  · have hcompare : ∀ c ∈ new.columns, ∀ o, old.column? c.name = some o → o.same? c ≠ none := by
      intro c hc o ho
      exact (hold.regular o (Table.column?_eq_some ho).1).same?_ne_none (hnew.regular c hc)
    have hchanges : (∃ statements, tableColumnChanges .mysql old new false true = .ok statements) ↔
        ∃ changes, columnChanges .mysql old new.name false none new.columns = .ok changes := by
      simp only [tableColumnChanges_iff]
      constructor
      · rintro ⟨_, changes, hchanges, -⟩
        exact ⟨changes, hchanges⟩
      · rintro ⟨changes, hchanges⟩
        exact ⟨_, changes, hchanges, rfl⟩
    rw [hchanges, exists_columnChanges_iff none hcompare]
    refine forall₂_congr fun c hc => or_congr_right ?_
    exact Column.exists_typed_iff (hnew.regular c hc).supported
  · intro statements h
    obtain ⟨changes, hchanges, rfl⟩ := tableColumnChanges_iff.mp h
    obtain ⟨columns, hcolumns, hall⟩ := replay_columnChanges old.primaryKey [] hchanges
      (fun c hc => (hnew.regular c hc).isDefinite.same?_self) hnew.nodup
    rw [List.nil_append, List.nil_append] at hcolumns
    refine ⟨columns, ?_, sameColumns?_iff.mpr hall⟩
    rw [if_pos rfl, replay_append, replay_append, replay_columnDrops hold.nodup, Option.bind_some,
      filter_columns_eq_oldColumns hold.nodup horder, hcolumns, Option.bind_some]
    exact replay_primaryKeyChanges old new columns

/-! ## Two pairs of tables -/

/-- Columns of texts up to these lengths. -/
def textColumns (lengths : List (String × Int)) : List Column :=
  lengths.map fun (name, length) =>
    ⟨name, .base .varchar, length, 0, true, none, none, false, false, none⟩

/-- A table from which a column is dropped while others are added, moved and made longer. -/
def shortTable : Table :=
  ⟨"t", textColumns [("a", 10), ("b", 10), ("c", 10)], some ["a"], none⟩

/-- The table that it becomes. -/
def longTable : Table :=
  ⟨"t", textColumns [("x", 10), ("a", 10), ("y", 10), ("c", 20), ("z", 10)], some ["a", "c"], none⟩

/-- The changes from `shortTable` to `longTable` are written and lead there. -/
theorem longTable_from_shortTable :
    ∃ statements columns,
      tableColumnChanges .mysql shortTable longTable false true = .ok statements ∧
      replay "t" ⟨shortTable.columns, some ["a"]⟩
          (statements ++ primaryKeyChanges shortTable longTable) = some ⟨columns, some ["a", "c"]⟩ ∧
      sameColumns? columns longTable.columns = some true := by
  have hregular : ∀ lengths, ∀ c ∈ textColumns lengths, c.IsRegular := by
    intro lengths c hc
    obtain ⟨_, -, rfl⟩ := List.mem_map.mp hc
    exact ⟨⟨_, rfl⟩, nofun⟩
  have hold : shortTable.IsRegular := ⟨by decide, hregular _⟩
  have hnew : longTable.IsRegular := ⟨by decide, hregular _⟩
  have hfits : ∀ c ∈ longTable.columns, c.NumbersFit .mysql := by
    have hshort : ∀ c ∈ longTable.columns, Numeral.isWritable c.size = true := by decide +kernel
    intro c hc
    obtain ⟨_, -, hcolumn⟩ := List.mem_map.mp hc
    refine ⟨fun _ _ _ => hshort c hc, ?_, ?_⟩
    all_goals rw [← hcolumn]; nofun
  obtain ⟨hwritten, hreplay⟩ := table_after_changes hold hnew (by decide)
  obtain ⟨statements, h⟩ := hwritten.mpr fun c hc => Or.inr (hfits c hc)
  obtain ⟨columns, hcolumns, hsame⟩ := hreplay statements h
  exact ⟨statements, columns, h, hcolumns, hsame⟩

/-- A table with a number that is too long to be written as the default of its column. -/
def vastTable : Table :=
  ⟨"t", [⟨"n", .base .integer, 0, 0, true, some (.int Numeral.unwritten), none, false, false,
    none⟩], none, none⟩

/-- From a table without columns to `vastTable` no changes can be written. -/
theorem no_changes_to_vastTable :
    Table.IsRegular ⟨"t", [], none, none⟩ ∧ vastTable.IsRegular ∧
      Table.sharedNames ⟨"t", [], none, none⟩ vastTable =
        vastTable.sharedNames ⟨"t", [], none, none⟩ ∧
      tableColumnChanges .mysql ⟨"t", [], none, none⟩ vastTable false true =
        .error (.fault .tooManyDigits) := by
  refine ⟨⟨List.nodup_nil, List.forall_mem_nil _⟩, ⟨List.nodup_singleton _, ?_⟩, by decide, ?_⟩
  · intro c hc
    obtain rfl := List.mem_singleton.mp hc
    exact ⟨⟨_, rfl⟩, nofun⟩
  · have hdefault : (Literal.int Numeral.unwritten).checkWritable =
        .error (.fault .tooManyDigits) := by
      rw [Literal.checkWritable, Numeral.isWritable_unwritten]
      rfl
    simp only [tableColumnChanges, vastTable, columnChanges, columnChange, Table.column?,
      List.find?_nil, Column.typed, Column.checkDefault, hdefault]
    rfl

end SchemaPlan
