import SchemaPlan.Proofs.Migration.Permissions

/-!
# Tables that others refer to

A database may refuse to drop a table while a foreign key of another table refers to it.  Before a
run drops the removed tables it has dropped nothing but stale keys of common tables, and it goes
through the removed tables in the order of the old schema, whichever of them refers to which.

* `Migration.eq_of_reached` says what a run has done when it comes to a removed table.
* `Migration.dropKey_mem_pre_iff` and `Migration.dropTable_mem_pre_iff` say which keys and tables are
  dropped by then; the last theorem of that section which of the keys that refer to the table are
  gone.
-/
namespace SchemaPlan

/-- What stands before a name in a list is what stands before its first occurrence. -/
theorem idxOf_lt_idxOf_iff {earlier later : List String} {a b : String} (hb : b ∉ earlier) :
    (earlier ++ b :: later).idxOf a < (earlier ++ b :: later).idxOf b ↔ a ∈ earlier := by
  rw [List.idxOf_append_of_notMem hb, List.idxOf_cons_self, Nat.add_zero]
  by_cases ha : a ∈ earlier
  · rw [List.idxOf_append_of_mem ha]
    exact List.idxOf_lt_length_iff
  · rw [List.idxOf_append_of_notMem ha]
    exact iff_of_false (by omega) ha

/-- The foreign key has been dropped by itself or with its table. -/
def ForeignKey.IsGone (k : ForeignKey) (statements : List Statement) : Prop :=
  .alter k.table (.dropForeignKey k.name) ∈ statements ∨ .dropTable k.table ∈ statements

namespace Migration

variable (m : Migration) {table : String} {statements pre post : List Statement}

/-- A foreign key of the old schema by which another table of the database refers to this one. -/
structure RefersTo (table : String) (k : ForeignKey) : Prop where
  declared : k ∈ (m.old.foreignKeysOf k.table).values
  isTable : (m.old.table? k.table).isSome
  isLocal : m.old.mappedDatabase m.deployment.mapping k.table = none
  foreign : k.foreignTable = table
  other : k.table ≠ table

/-! ## What is done before a table is dropped -/

theorem about_tableDrops (table : String) : About table (m.tableDrops table) :=
  (m.plain_tableDrops table).mono fun _ hs => hs.1

theorem about_staleDrops (table : String) : About table (m.staleDrops table) :=
  (m.onKeys_staleDrops table).mono fun _ hs => hs.1

/-- A run drops a removed table once, after the stale keys and the removed tables before it. -/
theorem run_eq_of_removed (h : m.run.outcome = .ok statements) (hallow : m.allow.dropTable = true)
    {earlier later : List String} (hremoved : m.removed = earlier ++ table :: later) :
    let before := m.common.flatMap m.staleDrops ++ earlier.flatMap m.tableDrops
    .dropTable table ∉ before ∧
      ∃ after, .dropTable table ∉ after ∧ statements = before ++ .dropTable table :: after := by
  have hmem : table ∈ m.removed := by
    rw [hremoved]
    exact List.mem_append_right _ List.mem_cons_self
  have hnotNew : ¬ (m.new.table? table).isSome := by
    simpa using ((m.mem_removed).mp hmem).2
  have hcommon : table ∉ m.common := fun hc => hnotNew ((m.mem_common).mp hc).2
  have hadded : table ∉ m.added := fun ha => hnotNew ((m.mem_added).mp ha).1
  have hnodup := m.nodup_removed
  rw [hremoved, List.nodup_append, List.nodup_cons] at hnodup
  obtain ⟨-, ⟨hlater, -⟩, hearlier⟩ := hnodup
  obtain ⟨hcreated, hchanged, rfl⟩ := (m.run_eq_ok_iff).mp h
  -- What is written for other tables does not drop this one.
  have hother : ∀ {names : List String} {f : String → List Statement}, table ∉ names →
      (∀ name ∈ names, About name (f name)) → .dropTable table ∉ names.flatMap f :=
    fun hnames hf hs => hnames ((mem_flatMap_of_about hf).mp hs).1
  constructor
  · rw [List.mem_append, not_or]
    exact ⟨hother hcommon fun t _ => m.about_staleDrops t,
      hother (fun ht => hearlier table ht table List.mem_cons_self rfl)
        fun t _ => m.about_tableDrops t⟩
  · refine ⟨(.dropView table :: if m.dialect == .pgsql then [.dropSequence table] else []) ++
      later.flatMap m.tableDrops ++ m.added.flatMap m.created ++ m.common.flatMap m.changed ++
      m.added.flatMap m.keyCreation ++ m.common.flatMap m.keyChanges, ?_, ?_⟩
    · simp only [List.mem_append, not_or]
      exact ⟨⟨⟨⟨⟨by simp, hother hlater fun t _ => m.about_tableDrops t⟩,
        hother hadded fun t ht => (m.plain_created (hcreated t ht)).mono fun _ hs => hs.1⟩,
        hother hcommon fun t ht => (m.plain_changed ht (hchanged t ht)).mono fun _ hs => hs.1⟩,
        hother hadded fun t _ => (m.onKeys_keyCreation t).mono fun _ hs => hs.1⟩,
        hother hcommon fun t _ => (m.onKeys_keyChanges t).mono fun _ hs => hs.1⟩
    · rw [if_pos hallow, hremoved]
      simp [tableDrops]

/-- What a run has done when it comes to the drop of a removed table. -/
theorem eq_of_reached (h : m.run.outcome = .ok statements) (hallow : m.allow.dropTable = true)
    {earlier later : List String} (hremoved : m.removed = earlier ++ table :: later)
    (hreached : statements = pre ++ .dropTable table :: post) :
    pre = m.common.flatMap m.staleDrops ++ earlier.flatMap m.tableDrops := by
  obtain ⟨hbefore, after, hafter, heq⟩ := m.run_eq_of_removed h hallow hremoved
  rw [hreached] at heq
  exact ((List.append_cons_inj_of_notMem hbefore hafter).mp heq.symm).1.symm

/-! ## Foreign keys that are gone -/

section Reached

variable (h : m.run.outcome = .ok statements) (hallow : m.allow.dropTable = true)
  (hremoved : table ∈ m.removed) (hreached : statements = pre ++ .dropTable table :: post)
include h hallow hremoved hreached

/-- By then a key has been dropped by itself when it is stale and stale keys may be dropped. -/
theorem dropKey_mem_pre_iff {k : ForeignKey} (hk : k ∈ (m.old.foreignKeysOf k.table).values) :
    .alter k.table (.dropForeignKey k.name) ∈ pre ↔
      m.allow.dropIndex = true ∧ k.table ∈ m.common ∧
        (m.new.foreignKeysOf k.table).get? k.name ≠ some k := by
  obtain ⟨earlier, later, hsplit⟩ := List.append_of_mem hremoved
  have hfound := (m.old.isTableMap_foreignKeysOf k.table).keyed.get?_name hk
  have hstale : k.name ∈ m.staleKeys k.table ↔
      (m.new.foreignKeysOf k.table).get? k.name ≠ some k := by
    rw [mem_staleKeys, hfound]
    simp
  have hnone : .alter k.table (.dropForeignKey k.name) ∉ earlier.flatMap m.tableDrops := by
    intro hs
    obtain ⟨-, hs⟩ := (mem_flatMap_of_about fun t _ => m.about_tableDrops t).mp hs
    exact (m.plain_tableDrops k.table _ hs).2 rfl
  rw [m.eq_of_reached h hallow hsplit hreached, List.mem_append, or_iff_left hnone,
    mem_flatMap_of_about fun t _ => m.about_staleDrops t]
  simp only [Statement.subject, dropKey_mem_staleDrops, mem_earlyKeys, hstale]
  tauto

/-- By then a table has been dropped when it is removed and stands before this one. -/
theorem dropTable_mem_pre_iff (other : String) :
    .dropTable other ∈ pre ↔ m.removed.idxOf other < m.removed.idxOf table := by
  obtain ⟨earlier, later, hsplit⟩ := List.append_of_mem hremoved
  have hnot : table ∉ earlier := by
    have hnodup := m.nodup_removed
    rw [hsplit, List.nodup_append] at hnodup
    exact fun ht => hnodup.2.2 table ht table List.mem_cons_self rfl
  have hnone : .dropTable other ∉ m.common.flatMap m.staleDrops := by
    intro hs
    obtain ⟨-, hs⟩ := (mem_flatMap_of_about fun t _ => m.about_staleDrops t).mp hs
    exact not_mem_of_onKeys (s := .dropTable other) (m.onKeys_staleDrops other) nofun nofun hs
  rw [m.eq_of_reached h hallow hsplit hreached, List.mem_append, or_iff_right hnone,
    mem_flatMap_of_about fun t _ => m.about_tableDrops t, hsplit, idxOf_lt_idxOf_iff hnot]
  exact and_iff_left List.mem_cons_self

/-- **When a removed table is dropped**, a foreign key that refers to it is gone exactly when the
table of the key is removed too and stands before that one, or is common, and the key is stale and
stale keys may be dropped. -/
theorem isGone_iff_when_reached {k : ForeignKey} (hk : m.RefersTo table k) :
    k.IsGone pre ↔ m.removed.idxOf k.table < m.removed.idxOf table ∨
      (m.allow.dropIndex = true ∧ k.table ∈ m.common ∧
        (m.new.foreignKeysOf k.table).get? k.name ≠ some k) := by
  rw [ForeignKey.IsGone, m.dropKey_mem_pre_iff h hallow hremoved hreached hk.declared,
    m.dropTable_mem_pre_iff h hallow hremoved hreached k.table]
  exact or_comm

end Reached

/-! ## A family of tables -/

/-- A table that stays and one that goes refer to a third one that goes; the removed tables stand in
a given order. -/
def familyRemoval (order : List String) (dropIndex : Bool) : Migration where
  old := ⟨order.map (fun name => .table ⟨name, [], none, none⟩) ++
    [.table ⟨"guest", [], none, none⟩, .foreignKey ⟨"k", "child", "parent", [⟨"a", "id"⟩]⟩,
      .foreignKey ⟨"g", "guest", "parent", [⟨"a", "id"⟩]⟩]⟩
  new := ⟨[.table ⟨"guest", [], none, none⟩]⟩
  deployment := ⟨⟨.pgsql, ""⟩, none, none, .empty⟩
  allow := ⟨true, false, dropIndex⟩

/-- The removal of tables one after the other. -/
def removalStatements (order : List String) : List Statement :=
  order.flatMap fun name => [.dropTable name, .dropView name, .dropSequence name]

/-- The foreign key of the child is gone with the child, if that one stands first. -/
theorem child_gone_before_parent :
    (familyRemoval ["child", "parent"] true).run.outcome =
        .ok (.alter "guest" (.dropForeignKey "g") :: removalStatements ["child", "parent"]) ∧
      "parent" ∈ (familyRemoval ["child", "parent"] true).removed ∧
      (familyRemoval ["child", "parent"] true).RefersTo "parent"
        ⟨"k", "child", "parent", [⟨"a", "id"⟩]⟩ ∧
      ForeignKey.IsGone ⟨"k", "child", "parent", [⟨"a", "id"⟩]⟩
        (.alter "guest" (.dropForeignKey "g") :: removalStatements ["child"]) := by
  have hrun : (familyRemoval ["child", "parent"] true).run.outcome =
      .ok (.alter "guest" (.dropForeignKey "g") :: removalStatements ["child", "parent"]) := rfl
  have hremoved : "parent" ∈ (familyRemoval ["child", "parent"] true).removed := by decide
  have hreached : .alter "guest" (.dropForeignKey "g") :: removalStatements ["child", "parent"] =
      (.alter "guest" (.dropForeignKey "g") :: removalStatements ["child"]) ++
        .dropTable "parent" :: [.dropView "parent", .dropSequence "parent"] := rfl
  have hrefers : (familyRemoval ["child", "parent"] true).RefersTo "parent"
      ⟨"k", "child", "parent", [⟨"a", "id"⟩]⟩ := ⟨by decide, rfl, rfl, rfl, by decide⟩
  refine ⟨hrun, hremoved, hrefers, ?_⟩
  exact (isGone_iff_when_reached _ hrun rfl hremoved hreached hrefers).mpr (Or.inl (by decide))

/-- If the parent stands first, and no stale key may be dropped, both keys that refer to it are
still there when it is dropped. -/
theorem parent_referenced_when_dropped :
    (familyRemoval ["parent", "child"] false).dialect = .pgsql ∧
      (familyRemoval ["parent", "child"] false).run.outcome =
        .ok (removalStatements ["parent", "child"]) ∧
      "parent" ∈ (familyRemoval ["parent", "child"] false).removed ∧
      removalStatements ["parent", "child"] = [] ++ .dropTable "parent" ::
        [.dropView "parent", .dropSequence "parent", .dropTable "child", .dropView "child",
          .dropSequence "child"] ∧
      (familyRemoval ["parent", "child"] false).RefersTo "parent"
        ⟨"k", "child", "parent", [⟨"a", "id"⟩]⟩ ∧
      (familyRemoval ["parent", "child"] false).RefersTo "parent"
        ⟨"g", "guest", "parent", [⟨"a", "id"⟩]⟩ ∧
      ¬ ForeignKey.IsGone ⟨"k", "child", "parent", [⟨"a", "id"⟩]⟩ [] ∧
      ¬ ForeignKey.IsGone ⟨"g", "guest", "parent", [⟨"a", "id"⟩]⟩ [] :=
  ⟨rfl, rfl, by decide, rfl, ⟨by decide, rfl, rfl, rfl, by decide⟩,
    ⟨by decide, rfl, rfl, rfl, by decide⟩, by simp [ForeignKey.IsGone],
    by simp [ForeignKey.IsGone]⟩

end Migration

end SchemaPlan
