import SchemaPlan.Proofs.Migration.KeyOrder

/-!
# Indexes and foreign keys are dropped once

Three phases drop indexes and two drop foreign keys.  A later one asks what the phases before it
have dropped, so no index and no key of a table is dropped twice, and each is gone before another
one of its name is created.

* `Migration.onceBefore_run` says what has to hold of the phases for that.
* `Migration.dropsIndexOnce_run` and `Migration.dropsKeyOnce_run` say that it does, for indexes and
  for foreign keys.
-/
namespace SchemaPlan

/-- A statement that creates an index of a table, by itself or along with the table. -/
def Statement.CreatesIndex (table name : String) : Statement → Prop
  | createIndex i => i.table = table ∧ i.name = name
  | createTable t _ _ indexes => t = table ∧ ∃ i ∈ indexes, i.name = name
  | _ => False

/-- A statement that adds a foreign key to a table. -/
def Statement.AddsKey (table name : String) : Statement → Prop
  | alter t (.addForeignKey k) => t = table ∧ k.name = name
  | _ => False

theorem Statement.CreatesIndex.subject {table name : String} {s : Statement}
    (h : s.CreatesIndex table name) :
    s.subject = table ∧ (s.kind = .index ∨ s.kind = .table) := by
  unfold Statement.CreatesIndex at h
  split at h
  · exact ⟨h.1, Or.inl rfl⟩
  · exact ⟨h.1, Or.inr rfl⟩
  · cases h

theorem Statement.AddsKey.subject {table name : String} {s : Statement} (h : s.AddsKey table name) :
    s.subject = table ∧ s.kind = .foreignKey := by
  unfold Statement.AddsKey at h
  split at h
  · exact ⟨h.1, rfl⟩
  · cases h

namespace Migration

variable (m : Migration) {table name : String} {statements : List Statement}

/-- The drop of an index comes once at most, and before its creations. -/
abbrev DropsIndexOnce (table name : String) (statements : List Statement) : Prop :=
  OnceBefore (.dropIndex table name) (Statement.CreatesIndex table name) statements

/-- The drop of a foreign key comes once at most, and before its additions. -/
abbrev DropsKeyOnce (table name : String) (statements : List Statement) : Prop :=
  OnceBefore (.alter table (.dropForeignKey name)) (Statement.AddsKey table name) statements

/-- Statements that neither drop an index nor create one of its name. -/
abbrev LeavesIndex (table name : String) (statements : List Statement) : Prop :=
  Without (.dropIndex table name) (Statement.CreatesIndex table name) statements

/-- Statements that neither drop a foreign key nor add one of its name. -/
abbrev LeavesKey (table name : String) (statements : List Statement) : Prop :=
  Without (.alter table (.dropForeignKey name)) (Statement.AddsKey table name) statements

/-! ## The phases of a run -/

/-- A run has a statement once when each phase has and a later phase has it only where the earlier
ones have nothing to do with it. -/
theorem onceBefore_run (h : m.run.outcome = .ok statements) {x : Statement} {q : Statement → Prop}
    (habout : ∀ s, s = x ∨ q s → s.subject = table) (hcommon : x ∈ statements → table ∈ m.common)
    (hstale : OnceBefore x q (m.staleDrops table))
    (hchanged : table ∈ m.common → m.tableChanges table = .ok (m.changed table) →
      OnceBefore x q (m.changed table) ∧
        (x ∈ m.changed table → Without x q (m.staleDrops table)) ∧
        (x ∈ m.keyChanges table → Without x q (m.staleDrops table ++ m.changed table)))
    (hkeys : OnceBefore x q (m.keyChanges table)) : OnceBefore x q statements := by
  by_cases hx : x ∈ statements
  · have ht := hcommon hx
    obtain ⟨hok, heq⟩ := m.thoseAbout_common h ht
    obtain ⟨honce, hbetween, hlast⟩ := hchanged ht hok
    refine (precedes_thoseAbout_iff table (fun s hs => habout s (Or.inl hs)) habout _).mp ?_
    rw [heq]
    exact OnceBefore.append (OnceBefore.append hstale honce hbetween) hkeys hlast
  · exact .of_not_mem hx

/-- The last phase touches a table only if it stays in the database. -/
theorem local_of_mem_keyChanges {s : Statement} (h : s ∈ m.keyChanges table) :
    m.databaseOf table = none := by
  rw [Option.eq_none_iff_forall_ne_some]
  intro database hmapped
  rw [m.keyChanges_of_mapped hmapped] at h
  cases h

/-! ## Indexes, phase by phase -/

theorem each_not_createsIndex_keyDrop (gone : List String) (key : String) :
    Each (fun s => ¬ s.CreatesIndex table name) (m.keyDrop table gone key) :=
  .cons id (.ite (.singleton id) .nil)

theorem each_not_createsIndex_keyChange (dropped gone : List String) (k : ForeignKey) :
    Each (fun s => ¬ s.CreatesIndex table name) (m.keyChange table dropped gone k) :=
  .ite .nil (.append (.ite (m.each_not_createsIndex_keyDrop gone k.name) .nil)
    (.ite (.singleton id) .nil))

/-- The drop of a key drops an index once and creates none. -/
theorem dropsIndexOnce_keyDrop (gone : List String) (key : String) :
    DropsIndexOnce table name (m.keyDrop table gone key) :=
  .append (Precedes.singleton (.alter table (.dropForeignKey key)))
    (.ite (.singleton (.dropIndex table key)) .nil) fun _ => .singleton (not_or_intro nofun id)

theorem dropsIndexOnce_keyChange (dropped gone : List String) (k : ForeignKey) :
    DropsIndexOnce table name (m.keyChange table dropped gone k) := by
  have hadd : .dropIndex table name ∉
      (if m.refersLocally k then [Statement.alter table (.addForeignKey k)] else []) :=
    each_ne_iff.mp (.ite (.singleton nofun) .nil)
  exact Precedes.ite .nil (OnceBefore.append (.ite (m.dropsIndexOnce_keyDrop gone k.name) .nil)
    (.of_not_mem hadd) fun hmem => absurd hmem hadd)

/-- The indexes that are dropped on their own have distinct names. -/
theorem nodup_earlyIndexes (table : String) : (m.earlyIndexes table).Nodup := by
  unfold earlyIndexes
  split_ifs
  · have hstale : (m.staleIndexes table).Nodup :=
      (m.old.isTableMap_indexesOf table).keyed.nodup.sublist (List.filter_sublist.map _)
    exact hstale.filter _
  · exact List.nodup_nil

/-- An index that is dropped on its own does not go with a key as well. -/
theorem not_mem_backingIndexes (h : name ∈ m.earlyIndexes table) :
    name ∉ m.backingIndexes table := by
  unfold earlyIndexes at h
  split_ifs at h
  · simpa using (List.mem_filter.mp h).2
  · cases h

/-- The first phase drops an index once, along with its key or on its own. -/
theorem dropsIndexOnce_staleDrops : DropsIndexOnce table name (m.staleDrops table) := by
  have hkeys : DropsIndexOnce table name ((m.earlyKeys table).flatMap (m.keyDrop table [])) := by
    refine .flatMap id name (by simpa using m.nodup_earlyKeys table)
      (fun key _ => m.dropsIndexOnce_keyDrop [] key) fun key _ hne => ?_
    exact .of_not_mem (fun hs => hne ((m.dropIndex_mem_keyDrop).mp hs).1.symm)
      (m.each_not_createsIndex_keyDrop [] key)
  have hindexes : DropsIndexOnce table name ((m.earlyIndexes table).map (.dropIndex table)) := by
    refine List.pairwise_map.mpr ((m.nodup_earlyIndexes table).imp ?_)
    rintro i j hne (hi | hi) hj
    · cases hi
      cases hj
      exact hne rfl
    · exact hi
  refine OnceBefore.append hkeys hindexes fun hdrop => .flatMap fun key hkey => ?_
  obtain ⟨_, hearly, heq⟩ := List.mem_map.mp hdrop
  cases heq
  refine Without.of_not_mem (fun hs => ?_) (m.each_not_createsIndex_keyDrop [] key)
  obtain ⟨rfl, hhas, -⟩ := (m.dropIndex_mem_keyDrop).mp hs
  exact m.not_mem_backingIndexes hearly ((m.mem_backingIndexes).mpr ⟨hkey, hhas⟩)

/-- Where indexes are changed each one is dropped before it is created anew. -/
theorem dropsIndexOnce_indexChanges : DropsIndexOnce table name (m.indexChanges table) := by
  have hnodup : ((m.changedIndexes table).map Index.name).Nodup :=
    (m.new.isTableMap_indexesOf table).keyed.nodup_names.sublist
      (List.filter_sublist.map Index.name)
  refine .flatMap Index.name name hnodup (fun i _ => ?_) fun i _ hne s hs => ?_
  · have hcreation : .dropIndex table name ∉ (i.creation? m.dialect).toList := by
      intro hs
      obtain ⟨-, hcreated⟩ := Index.creation?_eq_some_iff.mp (Option.mem_toList.mp hs)
      cases hcreated
    exact .append (.ite (.singleton _) .nil) (.of_not_mem hcreation)
      fun hmem => absurd hmem hcreation
  · rcases (m.mem_recreation).mp hs with ⟨-, rfl⟩ | ⟨-, rfl⟩
    · rintro (hdrop | hcreates)
      · cases hdrop
        exact hne rfl
      · exact hcreates
    · rintro (hdrop | hcreates)
      · cases hdrop
      · exact hne hcreates.2

/-- The last phase drops an index once, along with its key. -/
theorem dropsIndexOnce_keyChanges : DropsIndexOnce table name (m.keyChanges table) := by
  have hnodup := (m.new.isTableMap_foreignKeysOf table).keyed.nodup_names
  unfold keyChanges
  split_ifs
  · exact .nil
  · refine OnceBefore.flatMap ForeignKey.name name hnodup
      (fun k _ => m.dropsIndexOnce_keyChange _ _ k) fun k _ hne => ?_
    exact .of_not_mem (fun hs => (m.each_keyChange_of_ne hne _ hs).2 rfl)
      (m.each_not_createsIndex_keyChange _ _ k)

/-! ## Indexes in a run -/

/-- The changes of a table leave its indexes and keys alone, except for the changes of its indexes on
a table that stays in the database. -/
theorem changed_eq_append (hcommon : table ∈ m.common)
    (hchanged : m.tableChanges table = .ok (m.changed table)) :
    ∃ shape, Each (fun s => (s.kind ≠ .index ∧ s.kind ≠ .foreignKey) ∧
        ∀ name, ¬ s.CreatesIndex table name) shape ∧
      m.changed table = shape ++
        if (m.databaseOf table).isSome then [] else m.indexChanges table := by
  cases hdatabase : m.databaseOf table with
  | some database =>
    refine ⟨m.changed table, ?_, (List.append_nil _).symm⟩
    rcases m.changed_of_mapped hcommon hchanged hdatabase with heq | heq
    · rw [heq]
      exact .nil
    · rw [heq]
      exact .cons ⟨⟨nofun, nofun⟩, fun _ => id⟩ (.singleton ⟨⟨nofun, nofun⟩, fun _ => id⟩)
  | none =>
    obtain ⟨old, new, columns, -, -, -, hcolumns, heq⟩ :=
      m.changed_of_local hcommon hchanged hdatabase
    have hshape : Each (fun s => s.kind = .column ∨ s.kind = .sequence ∨ s.kind = .primaryKey)
        (columns ++ primaryKeyChanges old new) := by
      refine .append ((onColumns_tableColumnChanges hcolumns).mono fun s hs => ?_)
        ((each_primaryKeyChanges old new).mono fun s hs => ?_)
      · rw [← or_assoc]
        exact Or.inl hs.2
      · exact Or.inr (Or.inr hs.2)
    refine ⟨_, hshape.mono fun s hs => ⟨?_, fun name hcreates => ?_⟩, heq⟩
    · rcases hs with hkind | hkind | hkind <;> rw [hkind] <;> decide
    · rcases hcreates.subject.2 with hkind | hkind <;> simp [hkind] at hs

/-- An index that was dropped in the first phase is not dropped again where indexes are changed. -/
theorem not_mem_droppedEarly_of_indexChange (hdrop : .dropIndex table name ∈ m.indexChanges table) :
    name ∉ m.droppedEarly table := by
  obtain ⟨i, -, rfl, hredropped⟩ := (m.dropIndex_mem_indexChanges).mp hdrop
  simpa using (Bool.and_eq_true_iff.mp hredropped).2

/-- Where the last phase drops an index nothing before it has dropped or created it. -/
theorem leavesIndex_indexChanges (hdrop : .dropIndex table name ∈ m.keyChanges table) :
    LeavesIndex table name (m.indexChanges table) := by
  have hlocal := m.local_of_mem_keyChanges hdrop
  obtain ⟨-, hbacking, hgone⟩ := (m.dropIndex_mem_keyChanges hlocal).mp hdrop
  have hold : (m.old.indexesOf table).has name = true := (Bool.and_eq_true_iff.mp hbacking).2
  refine .of_not_mem (fun hs => hgone ((m.mem_droppedBeforeKeys).mpr (Or.inr hs))) ?_
  intro s hs hcreates
  obtain ⟨i, hi, hmem⟩ := List.mem_flatMap.mp hs
  rcases (m.mem_recreation).mp hmem with ⟨-, rfl⟩ | ⟨-, rfl⟩
  · exact hcreates
  · -- An old index that is created anew is dropped before.
    obtain ⟨-, rfl⟩ := hcreates
    exact hgone (m.changed_mem_droppedBeforeKeys hi hold)

/-- What the first phase does not drop it leaves alone. -/
theorem leavesIndex_staleDrops (h : name ∉ m.droppedEarly table) :
    LeavesIndex table name (m.staleDrops table) :=
  .of_not_mem (fun hs => h ((m.dropIndex_mem_staleDrops).mp hs))
    (.append (.flatMap fun key _ => m.each_not_createsIndex_keyDrop [] key) (.map fun _ _ => id))

/-- A run drops an index once at most, and before it creates one of its name. -/
theorem dropsIndexOnce_run (h : m.run.outcome = .ok statements) (table name : String) :
    DropsIndexOnce table name statements := by
  have habout : ∀ s : Statement, s = .dropIndex table name ∨ s.CreatesIndex table name →
      s.subject = table := by
    rintro s (rfl | hcreates)
    · rfl
    · exact hcreates.subject.1
  refine m.onceBefore_run h habout (fun hdrop => ((m.run_drops_index_iff h).mp hdrop).1)
    m.dropsIndexOnce_staleDrops (fun hcommon hchanged => ?_) m.dropsIndexOnce_keyChanges
  obtain ⟨shape, hparts, heq⟩ := m.changed_eq_append hcommon hchanged
  have hnone : .dropIndex table name ∉ shape := fun hdrop => (hparts _ hdrop).1.1 rfl
  have hshape : LeavesIndex table name shape :=
    .of_not_mem hnone (hparts.mono fun _ hs => hs.2 name)
  rw [heq]
  refine ⟨.append (.of_not_mem hnone) (.ite .nil m.dropsIndexOnce_indexChanges) fun _ => hshape,
    fun hdrop => ?_, fun hdrop => ?_⟩
  · rw [List.mem_append, or_iff_right hnone, List.mem_ite_nil_left] at hdrop
    exact m.leavesIndex_staleDrops (m.not_mem_droppedEarly_of_indexChange hdrop.2)
  · obtain ⟨-, -, hgone⟩ := (m.dropIndex_mem_keyChanges (m.local_of_mem_keyChanges hdrop)).mp hdrop
    refine .append (m.leavesIndex_staleDrops fun hearly => ?_)
      (.append hshape (.ite .nil (m.leavesIndex_indexChanges hdrop)))
    exact hgone ((m.mem_droppedBeforeKeys).mpr (Or.inl hearly))

/-! ## Foreign keys -/

theorem each_not_addsKey_keyDrop (gone : List String) (key : String) :
    Each (fun s => ¬ s.AddsKey table name) (m.keyDrop table gone key) :=
  .cons id (.ite (.singleton id) .nil)

theorem dropsKeyOnce_keyDrop (gone : List String) (key : String) :
    DropsKeyOnce table name (m.keyDrop table gone key) := by
  have hindex : .alter table (.dropForeignKey name) ∉
      (if m.hasBackingIndex table key && !gone.contains key then [Statement.dropIndex table key]
        else []) :=
    each_ne_iff.mp (.ite (.singleton nofun) .nil)
  exact .append (Precedes.singleton (.alter table (.dropForeignKey key))) (.of_not_mem hindex)
    fun hmem => absurd hmem hindex

theorem leavesKey_keyDrop {gone : List String} {key : String} (hne : key ≠ name) :
    LeavesKey table name (m.keyDrop table gone key) :=
  .of_not_mem (fun hs => hne ((m.dropKey_mem_keyDrop).mp hs).symm)
    (m.each_not_addsKey_keyDrop gone key)

/-- A changed key is dropped before it is added anew. -/
theorem dropsKeyOnce_keyChange (dropped gone : List String) (k : ForeignKey) :
    DropsKeyOnce table name (m.keyChange table dropped gone k) := by
  have hadd : .alter table (.dropForeignKey name) ∉
      (if m.refersLocally k then [Statement.alter table (.addForeignKey k)] else []) :=
    each_ne_iff.mp (.ite (.singleton nofun) .nil)
  exact Precedes.ite .nil (OnceBefore.append (.ite (m.dropsKeyOnce_keyDrop gone k.name) .nil)
    (.of_not_mem hadd) fun hmem => absurd hmem hadd)

theorem leavesKey_keyChange {dropped gone : List String} {k : ForeignKey} (hne : k.name ≠ name) :
    LeavesKey table name (m.keyChange table dropped gone k) :=
  .ite .nil (.append (.ite (m.leavesKey_keyDrop hne) .nil)
    (.ite (.singleton (not_or_intro nofun fun hadds => hne hadds.2)) .nil))

/-- The first phase drops a stale key once. -/
theorem dropsKeyOnce_staleDrops : DropsKeyOnce table name (m.staleDrops table) := by
  have hkeys : DropsKeyOnce table name ((m.earlyKeys table).flatMap (m.keyDrop table [])) :=
    .flatMap id name (by simpa using m.nodup_earlyKeys table)
      (fun key _ => m.dropsKeyOnce_keyDrop [] key) fun _ _ hne => m.leavesKey_keyDrop hne
  have hindexes : .alter table (.dropForeignKey name) ∉
      (m.earlyIndexes table).map (Statement.dropIndex table) :=
    each_ne_iff.mp (.map fun _ _ => nofun)
  exact .append hkeys (.of_not_mem hindexes) fun hmem => absurd hmem hindexes

/-- The last phase drops a key once, before it adds the new one. -/
theorem dropsKeyOnce_keyChanges : DropsKeyOnce table name (m.keyChanges table) := by
  have hnodup := (m.new.isTableMap_foreignKeysOf table).keyed.nodup_names
  unfold keyChanges
  split_ifs
  · exact .nil
  · exact OnceBefore.flatMap ForeignKey.name name hnodup
      (fun k _ => m.dropsKeyOnce_keyChange _ _ k) fun k _ hne => m.leavesKey_keyChange hne

/-- A run drops a foreign key once at most, and before it adds one of its name. -/
theorem dropsKeyOnce_run (h : m.run.outcome = .ok statements) (table name : String) :
    DropsKeyOnce table name statements := by
  have habout : ∀ s : Statement, s = .alter table (.dropForeignKey name) ∨ s.AddsKey table name →
      s.subject = table ∧ s.kind = .foreignKey := by
    rintro s (rfl | hadds)
    · exact ⟨rfl, rfl⟩
    · exact hadds.subject
  refine m.onceBefore_run h (fun s hs => (habout s hs).1)
    (fun hdrop => ((m.run_drops_key_iff h).mp hdrop).1) m.dropsKeyOnce_staleDrops
    (fun hcommon hchanged => ?_) m.dropsKeyOnce_keyChanges
  have hplain : LeavesKey table name (m.changed table) := by
    refine (m.plain_changed hcommon hchanged).mono fun s hs hmine => ?_
    exact hs.2 (habout s hmine).2
  have hnone : .alter table (.dropForeignKey name) ∉ m.changed table := fun hdrop =>
    hplain _ hdrop (Or.inl rfl)
  refine ⟨.of_not_mem hnone, fun hdrop => absurd hdrop hnone, fun hdrop => .append ?_ hplain⟩
  -- The last phase leaves out the keys that went in the first one.
  obtain ⟨-, -, hlate⟩ := (m.dropKey_mem_keyChanges (m.local_of_mem_keyChanges hdrop)).mp hdrop
  exact Without.of_not_mem (fun hs => hlate ((m.dropKey_mem_staleDrops).mp hs))
    (.append (.flatMap fun key _ => m.each_not_addsKey_keyDrop [] key) (.map fun _ _ => id))

/-! ## Both -/

/-- **Nothing is dropped twice or after its creation.**  A run drops each index and each foreign key
of a table at most once, and it does so before it creates an index or adds a key of that name. -/
theorem drops_once_before_creation (h : m.run.outcome = .ok statements) (table name : String) :
    (AtMostOnce (· = .dropIndex table name) statements ∧
      Precedes (· = .dropIndex table name) (Statement.CreatesIndex table name) statements) ∧
    AtMostOnce (· = .alter table (.dropForeignKey name)) statements ∧
      Precedes (· = .alter table (.dropForeignKey name)) (Statement.AddsKey table name)
        statements := by
  rw [← onceBefore_iff, ← onceBefore_iff]
  exact ⟨m.dropsIndexOnce_run h table name, m.dropsKeyOnce_run h table name⟩

/-- In `keyMove` the index goes first and the key goes and comes back in the end, each of them
once. -/
theorem drops_once_in_keyMove :
    (keyMove false).run.outcome = .ok (keyMoveStatements false) ∧
      .dropIndex "t" "k" ∈ keyMoveStatements false ∧
      .alter "t" (.dropForeignKey "k") ∈ keyMoveStatements false ∧
      AtMostOnce (· = .dropIndex "t" "k") (keyMoveStatements false) ∧
      Precedes (· = .dropIndex "t" "k") (Statement.CreatesIndex "t" "k") (keyMoveStatements false) ∧
      AtMostOnce (· = .alter "t" (.dropForeignKey "k")) (keyMoveStatements false) ∧
      Precedes (· = .alter "t" (.dropForeignKey "k")) (Statement.AddsKey "t" "k")
        (keyMoveStatements false) := by
  have hrun : (keyMove false).run.outcome = .ok (keyMoveStatements false) := rfl
  obtain ⟨⟨hindexOnce, hindex⟩, hkeyOnce, hkey⟩ :=
    (keyMove false).drops_once_before_creation hrun "t" "k"
  exact ⟨hrun, by simp [keyMoveStatements], by simp [keyMoveStatements], hindexOnce, hindex,
    hkeyOnce, hkey⟩

end Migration

end SchemaPlan
