import SchemaPlan.Proofs.Migration.BuiltIndexes
import SchemaPlan.Proofs.Migration.ColumnOrder
import SchemaPlan.Proofs.Migration.ViewChanges

/-!
# What is stale goes before columns change

With permission the first phase drops the foreign keys and the indexes that are stale, so that none
of them is left when columns change.  One dialect backs a foreign key with an index of its name.
There the first phase leaves the index of a key that stays, or is yet to come, to the key; where the
new schema has another index of that name the old one is dropped all the same, but late: where the
indexes of the table are changed, behind the columns of this table and of those before it.

* `Migration.dropIndex_mem_indexChanges_iff_heldBack` says which drops are late,
  `Migration.each_not_drops_changed_iff` which tables have one.
* `Migration.each_not_changesColumn_changed_iff` says which tables change columns.
* `Migration.drops_before_columns_iff` says exactly when all drops come before all columns.
-/
namespace SchemaPlan

/-- A statement that drops an index or a foreign key. -/
def Statement.DropsKeyOrIndex : Statement → Prop
  | dropIndex _ _ => True
  | alter _ (.dropForeignKey _) => True
  | _ => False

/-- A statement that drops, adds or changes a column. -/
def Statement.ChangesColumn (s : Statement) : Prop :=
  s.kind = .column

/-- The new table has a column that the old one does not have as it is, or does without one of the
old columns where that is allowed. -/
def Table.ChangesColumns (allowDrop : Bool) (old new : Table) : Prop :=
  (allowDrop = true ∧ ∃ c ∈ old.columns, new.column? c.name = none) ∨
    ∃ c ∈ new.columns, ¬ c.IsUnchangedFrom old

/-! ## Statements -/

namespace Statement

variable {s : Statement}

theorem DropsKeyOrIndex.changesPart (h : s.DropsKeyOrIndex) : s.ChangesPart := by
  unfold DropsKeyOrIndex at h
  split at h
  · trivial
  · trivial
  · cases h

theorem DropsKeyOrIndex.kind (h : s.DropsKeyOrIndex) : s.kind = .index ∨ s.kind = .foreignKey := by
  unfold DropsKeyOrIndex at h
  split at h
  · exact Or.inl rfl
  · exact Or.inr rfl
  · cases h

/-- A statement that drops an index or a foreign key drops it by a name. -/
theorem DropsKeyOrIndex.eq (h : s.DropsKeyOrIndex) :
    ∃ name, s = .dropIndex s.subject name ∨ s = .alter s.subject (.dropForeignKey name) := by
  unfold DropsKeyOrIndex at h
  split at h
  · exact ⟨_, Or.inl rfl⟩
  · exact ⟨_, Or.inr rfl⟩
  · cases h

theorem ChangesColumn.changesPart (h : s.ChangesColumn) : s.ChangesPart := by
  unfold ChangesColumn at h
  cases s with
  | alter table change =>
    cases change with
    | addForeignKey k => cases h
    | _ => trivial
  | _ => cases h

theorem not_changesColumn (h : s.kind = .index ∨ s.kind = .foreignKey) : ¬ s.ChangesColumn := by
  intro hcolumn
  rw [ChangesColumn] at hcolumn
  simp [hcolumn] at h

end Statement

namespace Migration

variable (m : Migration) {table other name : String} {statements : List Statement}

/-- A table of the database gets other or fewer columns. -/
def ChangesColumns (table : String) : Prop :=
  m.databaseOf table = none ∧ ∃ old new, m.old.table? table = some old ∧
    m.new.table? table = some new ∧ Table.ChangesColumns m.allow.dropColumn old new

/-- A table of the database gets another index of a name that the first phase leaves to a foreign
key. -/
def HoldsBack (table : String) : Prop :=
  m.databaseOf table = none ∧ ∃ name, m.backsKey table name = true ∧
    (m.new.indexesOf table).Redeclares (m.old.indexesOf table) name

/-! ## Late drops -/

/-- An index backs a key of its name that the old schema has as it is or does not have. -/
theorem backsKey_iff :
    m.backsKey table name = true ↔ m.dialect = .mysql ∧
      ∃ k, (m.new.foreignKeysOf table).get? name = some k ∧
        ∀ old, (m.old.foreignKeysOf table).get? name = some old → old = k := by
  rw [backsKey, Bool.and_eq_true, beq_iff_eq]
  refine and_congr_right fun _ => ?_
  cases (m.new.foreignKeysOf table).get? name with
  | none => simp
  | some k =>
    cases (m.old.foreignKeysOf table).get? name with
    | none => simp
    | some old => simp

/-- The first phase leaves an index that backs a key. -/
theorem not_mem_droppedEarly_of_backsKey (h : m.backsKey table name = true) :
    name ∉ m.droppedEarly table := by
  rw [mem_droppedEarly]
  rintro (hbacking | ⟨-, hstale⟩)
  · -- The key of this name is not stale.
    have hkey : name ∈ m.staleKeys table :=
      ((m.mem_earlyKeys).mp ((m.mem_backingIndexes).mp hbacking).1).2
    obtain ⟨old, hold, hdiffers⟩ := (m.mem_staleKeys).mp hkey
    obtain ⟨-, k, hnew, hsame⟩ := (m.backsKey_iff).mp h
    rw [hsame old hold] at hdiffers
    exact hdiffers hnew
  · have hfree : m.backsKey table name = false := ((m.mem_staleIndexes).mp hstale).2
    rw [h] at hfree
    exact Bool.noConfusion hfree

/-- With permission an index is dropped late when the new schema has another one of its name and the
first phase leaves that name to a foreign key. -/
theorem dropIndex_mem_indexChanges_iff_heldBack (hallow : m.allow.dropIndex = true) :
    .dropIndex table name ∈ m.indexChanges table ↔
      m.backsKey table name = true ∧
        (m.new.indexesOf table).Redeclares (m.old.indexesOf table) name := by
  constructor
  · intro hdrop
    have hredeclares := m.redeclares_of_indexChange hdrop
    have hlate := m.not_mem_droppedEarly_of_indexChange hdrop
    refine ⟨?_, hredeclares⟩
    by_contra hfree
    obtain ⟨old, new, hold, hnew, hne⟩ := hredeclares
    apply hlate
    rw [mem_droppedEarly, mem_staleIndexes]
    refine Or.inr ⟨hallow, ⟨old, hold, ?_⟩, Bool.eq_false_iff.mpr hfree⟩
    rw [hnew]
    exact fun h => hne (Option.some.inj h).symm
  · rintro ⟨hbacks, hredeclares⟩
    exact m.dropIndex_mem_indexChanges_of_redeclares hredeclares
      (m.not_mem_droppedEarly_of_backsKey hbacks)

/-- With permission the last phase drops nothing. -/
theorem each_not_drops_keyChanges (hallow : m.allow.dropIndex = true) (table : String) :
    Each (fun s => ¬ s.DropsKeyOrIndex) (m.keyChanges table) := by
  intro s hs hdrops
  have hsubject : s.subject = table := (m.onKeys_keyChanges table s hs).1
  have hlocal := m.local_of_mem_keyChanges hs
  have hno : ∀ key, .alter table (.dropForeignKey key) ∉ m.keyChanges table := by
    intro key hkey
    obtain ⟨hstale, -, hlate⟩ := (m.dropKey_mem_keyChanges hlocal).mp hkey
    exact hlate ((m.mem_earlyKeys).mpr ⟨hallow, hstale⟩)
  obtain ⟨key, heq | heq⟩ := hdrops.eq
  · rw [heq, hsubject] at hs
    exact hno key ((m.dropIndex_mem_keyChanges hlocal).mp hs).1
  · rw [heq, hsubject] at hs
    exact hno key hs

/-! ## Columns -/

/-- A column that the old table does not have as it is takes one statement, on the dialect that does
not change columns piece by piece. -/
theorem columnChange_cases {old : Table} {c : Column} {previous : Option String}
    (h : columnChange .mysql table false previous (old.column? c.name) c = .ok statements) :
    (c.IsUnchangedFrom old ∧ statements = []) ∨
      (¬ c.IsUnchangedFrom old ∧
        ∃ change, change.kind = .column ∧ statements = [.alter table change]) := by
  unfold Column.IsUnchangedFrom
  cases hold : old.column? c.name with
  | none =>
    rw [hold] at h
    obtain ⟨typed, -, rfl⟩ := columnChange_none_iff.mp h
    refine Or.inr ⟨?_, .addColumn typed (placeAfter .mysql previous), rfl, by simp⟩
    rintro ⟨o, ho, -⟩
    cases ho
  | some o =>
    rw [hold] at h
    rcases columnChange_some_iff.mp h with ⟨hsame, rfl⟩ | ⟨-, hview, -⟩ | ⟨hdiffers, -, hwhole⟩
    · exact Or.inl ⟨⟨o, rfl, hsame⟩, rfl⟩
    · cases hview
    · obtain ⟨typed, -, rfl⟩ := wholeChange_mysql_iff.mp hwhole
      refine Or.inr ⟨?_, .changeColumn typed (placeAfter .mysql previous), rfl, rfl⟩
      rintro ⟨_, ho, hsame⟩
      cases ho
      rw [hdiffers] at hsame
      cases hsame

/-- The columns of the new table take statements on columns alone, and none when the old table has
them all as they are. -/
theorem columnChanges_on_columns {old : Table} {columns : List Column} {previous : Option String}
    (h : columnChanges .mysql old table false previous columns = .ok statements) :
    Each Statement.ChangesColumn statements ∧
      (statements = [] ↔ ∀ c ∈ columns, c.IsUnchangedFrom old) := by
  induction columns generalizing previous statements with
  | nil =>
    cases h
    exact ⟨.nil, iff_of_true rfl (List.forall_mem_nil _)⟩
  | cons c rest ih =>
    obtain ⟨first, others, hfirst, hothers, rfl⟩ := columnChanges_cons_iff.mp h
    obtain ⟨heach, hempty⟩ := ih hothers
    rw [List.append_eq_nil_iff, hempty, List.forall_mem_cons]
    rcases columnChange_cases hfirst with ⟨hsame, rfl⟩ | ⟨hdiffers, change, hkind, rfl⟩
    · exact ⟨heach, and_congr_left fun _ => iff_of_true rfl hsame⟩
    · exact ⟨.append (.singleton hkind) heach,
        and_congr_left fun _ => iff_of_false (List.cons_ne_nil _ _) hdiffers⟩

/-- A table takes statements on columns alone, and none when it changes no columns. -/
theorem tableColumnChanges_on_columns {old new : Table} {allowDrop : Bool}
    (h : tableColumnChanges .mysql old new false allowDrop = .ok statements) :
    Each Statement.ChangesColumn statements ∧
      (statements = [] ↔ ¬ Table.ChangesColumns allowDrop old new) := by
  obtain ⟨changes, hchanges, rfl⟩ := tableColumnChanges_iff.mp h
  obtain ⟨heach, hempty⟩ := columnChanges_on_columns hchanges
  have hdrops : Each Statement.ChangesColumn (columnDrops .mysql old new) := by
    refine .flatMap fun c _ => .ite .nil (.cons rfl ?_)
    rw [if_neg (by simp)]
    exact .nil
  refine ⟨.append (.ite hdrops .nil) heach, ?_⟩
  have hnone : (if allowDrop = true then columnDrops .mysql old new else []) = [] ↔
      ¬ (allowDrop = true ∧ ∃ c ∈ old.columns, new.column? c.name = none) := by
    rw [← columnDrops_ne_nil_iff (d := .mysql)]
    cases allowDrop <;> simp
  rw [List.append_eq_nil_iff, hnone, hempty, Table.ChangesColumns, not_or]
  simp only [not_exists, not_and, not_not]

/-! ## The changes of a table -/

/-- The changes of a table drop an index or a key exactly when the table holds one back. -/
theorem each_not_drops_changed_iff (hallow : m.allow.dropIndex = true) (hcommon : table ∈ m.common)
    (hchanged : m.tableChanges table = .ok (m.changed table)) :
    Each (fun s => ¬ s.DropsKeyOrIndex) (m.changed table) ↔ ¬ m.HoldsBack table := by
  obtain ⟨shape, hshape, heq⟩ := m.changed_eq_append hcommon hchanged
  have hkept : Each (fun s => ¬ s.DropsKeyOrIndex) shape :=
    hshape.mono fun _ hs hdrops => hdrops.kind.elim hs.1.1 hs.1.2
  rw [heq, HoldsBack]
  cases hdatabase : m.databaseOf table with
  | some database => exact iff_of_true (.append hkept .nil) (fun h => nomatch h.1)
  | none =>
    simp only [← m.dropIndex_mem_indexChanges_iff_heldBack hallow, true_and, not_exists]
    constructor
    · intro heach name hdrop
      exact heach _ (List.mem_append_right shape hdrop) trivial
    · intro hno
      refine .append hkept fun s hs hdrops => ?_
      obtain ⟨hsubject, hkind⟩ := m.each_indexChanges table s hs
      obtain ⟨key, hdrop | hkey⟩ := hdrops.eq
      · rw [hdrop, hsubject] at hs
        exact hno key hs
      · rw [hkey] at hkind
        cases hkind

/-- The changes of a table touch a column exactly when the table changes columns. -/
theorem each_not_changesColumn_changed_iff (hmysql : m.dialect = .mysql)
    (hcommon : table ∈ m.common) (hchanged : m.tableChanges table = .ok (m.changed table)) :
    Each (fun s => ¬ s.ChangesColumn) (m.changed table) ↔ ¬ m.ChangesColumns table := by
  cases hdatabase : m.databaseOf table with
  | some database =>
    refine iff_of_true ?_ fun h => ?_
    · rcases m.changed_of_mapped hcommon hchanged hdatabase with heq | heq
      · rw [heq]
        exact .nil
      · rw [heq]
        exact .cons nofun (.singleton nofun)
    · have hlocal := h.1
      rw [hdatabase] at hlocal
      cases hlocal
  | none =>
    obtain ⟨old, new, columns, hold, hnew, -, hcolumns, heq⟩ :=
      m.changed_of_local hcommon hchanged hdatabase
    rw [hmysql] at hcolumns
    obtain ⟨heach, hempty⟩ := tableColumnChanges_on_columns hcolumns
    have hthis : m.ChangesColumns table ↔ Table.ChangesColumns m.allow.dropColumn old new := by
      simp only [ChangesColumns, hdatabase, hold, hnew, true_and, Option.some.injEq,
        exists_and_left, exists_eq_left']
    rw [hthis, ← hempty, heq]
    constructor
    · intro hnone
      cases columns with
      | nil => rfl
      | cons s rest => exact absurd (heach s List.mem_cons_self) (hnone s (by simp))
    · rintro rfl
      refine .append (.append .nil ((each_primaryKeyChanges old new).mono fun s hs hcolumn => ?_))
        ((m.each_indexChanges table).mono fun s hs => Statement.not_changesColumn (Or.inl hs.2))
      rw [Statement.ChangesColumn, hs.2] at hcolumn
      cases hcolumn

/-- Of two tables the changes are in order unless the first one changes columns and the second one
holds an index back. -/
theorem changed_in_order_iff (h : m.run.outcome = .ok statements) (hallow : m.allow.dropIndex = true)
    (htable : table ∈ m.common) (hother : other ∈ m.common) :
    Each (fun s => ¬ s.ChangesColumn) (m.changed table) ∨
        Each (fun s => ¬ s.DropsKeyOrIndex) (m.changed other) ↔
      (m.ChangesColumns table → ¬ m.HoldsBack other) := by
  obtain ⟨-, hcommon, -⟩ := (m.run_eq_ok_iff).mp h
  rw [m.each_not_drops_changed_iff hallow hother (hcommon other hother)]
  by_cases hback : m.HoldsBack other
  · -- An index is held back on the dialect that backs keys alone.
    obtain ⟨-, name, hbacks, -⟩ := id hback
    have hmysql : m.dialect = .mysql := ((m.backsKey_iff).mp hbacks).1
    rw [m.each_not_changesColumn_changed_iff hmysql htable (hcommon table htable)]
    simp only [hback, not_true_eq_false, or_false, imp_false]
  · exact iff_of_true (Or.inr hback) fun _ => hback

/-- In the changes of a table the columns come first. -/
theorem precedes_changed_iff (hcommon : table ∈ m.common)
    (hchanged : m.tableChanges table = .ok (m.changed table)) :
    Precedes Statement.DropsKeyOrIndex Statement.ChangesColumn (m.changed table) ↔
      Each (fun s => ¬ s.ChangesColumn) (m.changed table) ∨
        Each (fun s => ¬ s.DropsKeyOrIndex) (m.changed table) := by
  obtain ⟨shape, hshape, heq⟩ := m.changed_eq_append hcommon hchanged
  have hkept : Each (fun s => ¬ s.DropsKeyOrIndex) shape :=
    hshape.mono fun _ hs hdrops => hdrops.kind.elim hs.1.1 hs.1.2
  have hindexes : Each (fun s => ¬ s.ChangesColumn)
      (if (m.databaseOf table).isSome then [] else m.indexChanges table) :=
    .ite .nil ((m.each_indexChanges table).mono fun s hs =>
      Statement.not_changesColumn (Or.inl hs.2))
  constructor
  · rw [heq, precedes_append_iff]
    rintro ⟨-, -, hcolumns | hdrops⟩
    · exact Or.inl (.append hcolumns hindexes)
    · exact Or.inr (.append hkept hdrops)
  · rintro (hcolumns | hdrops)
    · exact .of_not_second hcolumns
    · exact .of_not_first hdrops

/-! ## The run -/

/-- **What is stale goes first.**  With permission to drop indexes a run drops all indexes and keys
before it changes any column, unless a table holds an index back and this table, or one that is
changed before it, changes columns. -/
theorem drops_before_columns_iff (h : m.run.outcome = .ok statements)
    (hallow : m.allow.dropIndex = true) :
    Precedes Statement.DropsKeyOrIndex Statement.ChangesColumn statements ↔
      (∀ t ∈ m.common, m.ChangesColumns t → ¬ m.HoldsBack t) ∧
        m.common.Pairwise fun t u => m.ChangesColumns t → ¬ m.HoldsBack u := by
  obtain ⟨hadded, hcommon, heq⟩ := (m.run_eq_ok_iff).mp h
  -- Nothing before the changes of the common tables touches a column, nothing behind them drops.
  have hbefore : Each (fun s => ¬ s.ChangesColumn) (m.common.flatMap m.staleDrops ++
      (if m.allow.dropTable then m.removed.flatMap m.tableDrops else []) ++
      m.added.flatMap m.created) := by
    refine .append (.append (.flatMap fun t _ => ?_) (.ite (.flatMap fun t _ => ?_) .nil))
      (.flatMap fun t ht => ?_)
    · exact (m.onKeys_staleDrops t).mono fun _ hs => Statement.not_changesColumn hs.2
    · exact .append (.cons nofun (.singleton nofun)) (.ite (.singleton nofun) .nil)
    · exact (Schema.not_changesPart_creation (hadded t ht)).mono fun _ hs hcolumn =>
        hs hcolumn.changesPart
  have hafter : Each (fun s => ¬ s.DropsKeyOrIndex)
      (m.added.flatMap m.keyCreation ++ m.common.flatMap m.keyChanges) :=
    .append (.flatMap fun t _ => .ite .nil (.map fun _ _ => id))
      (.flatMap fun t _ => m.each_not_drops_keyChanges hallow t)
  rw [heq, List.append_assoc _ (m.added.flatMap m.keyCreation),
    precedes_middle_iff hbefore hafter, precedes_flatMap_iff]
  refine and_congr (forall₂_congr fun t ht => ?_) (List.Pairwise.iff_of_mem fun ht hu => ?_)
  · rw [m.precedes_changed_iff ht (hcommon t ht), m.changed_in_order_iff h hallow ht ht]
  · exact m.changed_in_order_iff h hallow ht hu

/-! ## An index that grows with its table -/

/-- A table gets a column, which its index takes in, and these foreign keys. -/
def indexGrowth (keys : List ForeignKey) : Migration where
  old := ⟨[.table ⟨"t", [integerColumn "a"], none, none⟩,
    .table ⟨"p", [integerColumn "id"], none, none⟩, .index ⟨"k", "t", ["a"], false, false⟩]⟩
  new := ⟨[.table ⟨"t", [integerColumn "a", integerColumn "b"], none, none⟩,
    .table ⟨"p", [integerColumn "id"], none, none⟩,
    .index ⟨"k", "t", ["a", "b"], false, false⟩] ++ keys.map .foreignKey⟩
  deployment := ⟨⟨.mysql, ""⟩, none, none, .empty⟩
  allow := ⟨false, false, true⟩

/-- A foreign key with the name of the index. -/
def indexedKey : ForeignKey :=
  ⟨"k", "t", "p", [⟨"a", "id"⟩]⟩

/-- The new column of `indexGrowth`. -/
def grownColumn : Statement :=
  .alter "t" (.addColumn ⟨integerColumn "b", "integer"⟩ (.after "a"))

/-- Without a key of its name the index goes before the column comes. -/
theorem index_first_in_indexGrowth :
    (indexGrowth []).run.outcome = .ok [.dropIndex "t" "k", grownColumn,
        .createIndex ⟨"k", "t", ["a", "b"], false, false⟩] ∧
      (indexGrowth []).allow.dropIndex = true ∧
      Precedes Statement.DropsKeyOrIndex Statement.ChangesColumn [.dropIndex "t" "k", grownColumn,
        .createIndex ⟨"k", "t", ["a", "b"], false, false⟩] := by
  have hrun : (indexGrowth []).run.outcome = .ok [.dropIndex "t" "k", grownColumn,
      .createIndex ⟨"k", "t", ["a", "b"], false, false⟩] := rfl
  have hnone : ∀ table, ¬ (indexGrowth []).HoldsBack table := by
    rintro table ⟨-, name, hbacks, -⟩
    obtain ⟨-, k, hk, -⟩ := ((indexGrowth []).backsKey_iff).mp hbacks
    cases hk
  refine ⟨hrun, rfl, ((indexGrowth []).drops_before_columns_iff hrun rfl).mpr ⟨?_, ?_⟩⟩
  · exact fun t _ _ => hnone t
  · exact List.pairwise_of_forall fun _ u _ => hnone u

/-- With a new key of its name the index goes after the column has come, though nothing uses it. -/
theorem index_late_in_indexGrowth :
    (indexGrowth [indexedKey]).dialect = .mysql ∧
      (indexGrowth [indexedKey]).allow.dropIndex = true ∧
      (indexGrowth [indexedKey]).run.outcome = .ok [grownColumn, .dropIndex "t" "k",
        .createIndex ⟨"k", "t", ["a", "b"], false, false⟩,
        .alter "t" (.addForeignKey indexedKey)] ∧
      ¬ Precedes Statement.DropsKeyOrIndex Statement.ChangesColumn [grownColumn,
        .dropIndex "t" "k", .createIndex ⟨"k", "t", ["a", "b"], false, false⟩,
        .alter "t" (.addForeignKey indexedKey)] := by
  refine ⟨rfl, rfl, rfl, fun h => ?_⟩
  exact (List.pairwise_cons.mp h).1 (.dropIndex "t" "k") (by simp) rfl trivial

end Migration

end SchemaPlan
