import SchemaPlan.Proofs.Migration.Permissions
import SchemaPlan.Proofs.Statement.Order

/-!
# Foreign keys and the indexes that back them

One dialect backs a foreign key with an index of its name and refuses to drop that index before the
key.  The first phase keeps to this order, and so does the last one where it drops an index along
with a key.  In between, where indexes are changed, an index is dropped whether or not a key of its
name is still there.

* `Migration.dropsKeyFirst_staleDrops` and `Migration.dropsKeyFirst_keyChanges` say that the two
  phases that drop keys are in order, whatever is to be dropped.
* The section on the run says exactly when the whole run is.
-/
namespace SchemaPlan

namespace Migration

variable (m : Migration) {table name : String} {statements : List Statement}

/-- The drops of a foreign key come before those of the index of its name. -/
def DropsKeyFirst (table name : String) (statements : List Statement) : Prop :=
  Precedes (· = .alter table (.dropForeignKey name)) (· = .dropIndex table name) statements

/-! ## The phases that drop keys -/

/-- The old foreign keys that are stale have distinct names. -/
theorem nodup_earlyKeys (table : String) : (m.earlyKeys table).Nodup := by
  unfold earlyKeys
  split_ifs
  · exact (m.old.isTableMap_foreignKeysOf table).keyed.nodup.sublist (List.filter_sublist.map _)
  · exact List.nodup_nil

/-- A key goes before the index that it takes with it. -/
theorem dropsKeyFirst_keyDrop (dropped : List String) (key : String) :
    DropsKeyFirst table name (m.keyDrop table dropped key) := by
  have hindex : Each (fun s => s ≠ .alter table (.dropForeignKey name))
      (if m.hasBackingIndex table key && !dropped.contains key then [.dropIndex table key] else []) :=
    .ite (.singleton nofun) .nil
  exact precedes_append_iff.mpr ⟨.singleton (.alter table (.dropForeignKey key)),
    .of_not_first hindex, Or.inr hindex⟩

/-- The drop of a key has nothing to do with keys and indexes of other names. -/
theorem each_keyDrop_of_ne {dropped : List String} {key : String} (hne : key ≠ name) :
    Each (fun s => s ≠ .alter table (.dropForeignKey name) ∧ s ≠ .dropIndex table name)
      (m.keyDrop table dropped key) := by
  intro s hs
  constructor
  · rintro rfl
    exact hne ((m.dropKey_mem_keyDrop).mp hs).symm
  · rintro rfl
    exact hne ((m.dropIndex_mem_keyDrop).mp hs).1.symm

theorem dropsKeyFirst_keyChange (dropped gone : List String) (k : ForeignKey) :
    DropsKeyFirst table name (m.keyChange table dropped gone k) := by
  have hadd : Each (fun s => s ≠ .alter table (.dropForeignKey name))
      (if m.refersLocally k then [.alter table (.addForeignKey k)] else []) :=
    .ite (.singleton nofun) .nil
  exact .ite .nil (precedes_append_iff.mpr
    ⟨.ite (m.dropsKeyFirst_keyDrop gone k.name) .nil, .of_not_first hadd, Or.inr hadd⟩)

theorem each_keyChange_of_ne {dropped gone : List String} {k : ForeignKey} (hne : k.name ≠ name) :
    Each (fun s => s ≠ .alter table (.dropForeignKey name) ∧ s ≠ .dropIndex table name)
      (m.keyChange table dropped gone k) := by
  intro s hs
  obtain ⟨-, ⟨-, -, hdrop⟩ | ⟨-, rfl⟩⟩ := (m.mem_keyChange).mp hs
  · exact m.each_keyDrop_of_ne hne s hdrop
  · exact ⟨nofun, nofun⟩

/-- The first phase drops the keys of a table before its indexes. -/
theorem dropsKeyFirst_staleDrops : DropsKeyFirst table name (m.staleDrops table) := by
  refine precedes_append_iff.mpr ⟨?_, .of_not_first (.map fun _ _ => nofun),
    Or.inr (.map fun _ _ => nofun)⟩
  exact Precedes.flatMap id (by simpa using m.nodup_earlyKeys table)
    (fun key _ _ => m.dropsKeyFirst_keyDrop [] key) fun key _ hne => m.each_keyDrop_of_ne hne

/-- The last phase drops an index only along with the key of its name. -/
theorem dropsKeyFirst_keyChanges : DropsKeyFirst table name (m.keyChanges table) := by
  have hnodup := (m.new.isTableMap_foreignKeysOf table).keyed.nodup_names
  unfold keyChanges
  split_ifs
  · exact .nil
  · exact Precedes.flatMap ForeignKey.name hnodup (fun k _ _ => m.dropsKeyFirst_keyChange _ _ k)
      fun k _ hne => m.each_keyChange_of_ne hne

/-! ## The run -/

/-- Where indexes are changed an old one is dropped when the new schema has another one of its name,
unless it is gone. -/
theorem dropIndex_mem_indexChanges_of_redeclares
    (h : (m.new.indexesOf table).Redeclares (m.old.indexesOf table) name)
    (hlate : name ∉ m.droppedEarly table) : .dropIndex table name ∈ m.indexChanges table := by
  obtain ⟨old, new, hold, hnew, hne⟩ := h
  obtain ⟨hvalue, rfl⟩ := ((m.new.isTableMap_indexesOf table).keyed.get?_eq_some_iff name new).mp hnew
  refine (m.dropIndex_mem_indexChanges).mpr ⟨new, (m.mem_changedIndexes).mpr ⟨hvalue, ?_⟩, rfl, ?_⟩
  · rw [hold]
    exact fun h => hne (Option.some.inj h)
  · rw [isRedropped, Ordered.has, hold]
    simpa using hlate

/-- Without permission an index is dropped where indexes are changed when the new schema has another
one of its name. -/
theorem dropIndex_mem_indexChanges_iff_redeclares (hallow : m.allow.dropIndex = false) :
    .dropIndex table name ∈ m.indexChanges table ↔
      (m.new.indexesOf table).Redeclares (m.old.indexesOf table) name := by
  refine ⟨m.redeclares_of_indexChange, fun h => m.dropIndex_mem_indexChanges_of_redeclares h ?_⟩
  rw [m.droppedEarly_of_not_allowed hallow]
  exact List.not_mem_nil

/-- A run is in order when the key is not dropped in the last phase, or its index not before. -/
theorem dropsKeyFirst_iff_of_common (h : m.run.outcome = .ok statements)
    (hcommon : table ∈ m.common) :
    DropsKeyFirst table name statements ↔
      .dropIndex table name ∉ m.staleDrops table ++ m.changed table ∨
        .alter table (.dropForeignKey name) ∉ m.keyChanges table := by
  obtain ⟨hchanged, heq⟩ := m.thoseAbout_common h hcommon
  have hplain : Each (fun s => s ≠ .alter table (.dropForeignKey name)) (m.changed table) := by
    rintro s hs rfl
    exact (m.plain_changed hcommon hchanged _ hs).2 rfl
  have hbefore : DropsKeyFirst table name (m.staleDrops table ++ m.changed table) :=
    precedes_append_iff.mpr ⟨m.dropsKeyFirst_staleDrops, .of_not_first hplain, Or.inr hplain⟩
  rw [DropsKeyFirst, ← precedes_thoseAbout_iff table (by rintro s rfl; rfl)
    (by rintro s rfl; rfl), heq, precedes_append_iff]
  constructor
  · rintro ⟨-, -, hindex | hkey⟩
    · exact Or.inl (each_ne_iff.mp hindex)
    · exact Or.inr (each_ne_iff.mp hkey)
  · intro hparts
    exact ⟨hbefore, m.dropsKeyFirst_keyChanges, hparts.imp each_ne_iff.mpr each_ne_iff.mpr⟩

/-- **Keys go before their indexes** in a run that drops a key, unless stale keys are left for the
last phase and the index of that name is changed before. -/
theorem dropsKeyFirst_iff (h : m.run.outcome = .ok statements)
    (hkey : .alter table (.dropForeignKey name) ∈ statements) :
    DropsKeyFirst table name statements ↔
      m.allow.dropIndex = true ∨
        ¬ (m.new.indexesOf table).Redeclares (m.old.indexesOf table) name := by
  obtain ⟨hcommon, hstale, hreason⟩ := (m.run_drops_key_iff h).mp hkey
  have hchanged := (m.thoseAbout_common h hcommon).1
  rw [m.dropsKeyFirst_iff_of_common h hcommon]
  cases hallow : m.allow.dropIndex with
  | true =>
    -- The key is dropped in the first phase and not again.
    have hearly : name ∈ m.earlyKeys table := (m.mem_earlyKeys).mpr ⟨hallow, hstale⟩
    refine iff_of_true (Or.inr ?_) (Or.inl rfl)
    cases hdatabase : m.databaseOf table with
    | none =>
      rw [m.dropKey_mem_keyChanges hdatabase]
      exact fun hlast => hlast.2.2 hearly
    | some database =>
      rw [m.keyChanges_of_mapped hdatabase]
      exact List.not_mem_nil
  | false =>
    -- The key is dropped in the last phase, so all depends on the index.
    obtain ⟨hlocal, hnew⟩ := hreason.resolve_left (by simp [hallow])
    have hlast : .alter table (.dropForeignKey name) ∈ m.keyChanges table := by
      rw [m.dropKey_mem_keyChanges hlocal, mem_earlyKeys, hallow]
      exact ⟨hstale, hnew, fun h => Bool.false_ne_true h.1⟩
    have hnotEarly : .dropIndex table name ∉ m.staleDrops table := by
      rw [dropIndex_mem_staleDrops, m.droppedEarly_of_not_allowed hallow]
      exact List.not_mem_nil
    rw [or_iff_left (not_not_intro hlast), or_iff_right Bool.false_ne_true, List.mem_append,
      or_iff_right hnotEarly, m.dropIndex_mem_changed hcommon hchanged hlocal,
      m.dropIndex_mem_indexChanges_iff_redeclares hallow]

/-! ## A key that moves with its index -/

/-- A table moves a foreign key, and the index of its name, to another column. -/
def keyMove (dropIndex : Bool) : Migration where
  old := ⟨[.table ⟨"t", [], none, none⟩, .table ⟨"p", [], none, none⟩,
    .index ⟨"k", "t", ["a"], false, false⟩, .foreignKey ⟨"k", "t", "p", [⟨"a", "id"⟩]⟩]⟩
  new := ⟨[.table ⟨"t", [], none, none⟩, .table ⟨"p", [], none, none⟩,
    .index ⟨"k", "t", ["b"], false, false⟩, .foreignKey ⟨"k", "t", "p", [⟨"b", "id"⟩]⟩]⟩
  deployment := ⟨⟨.mysql, ""⟩, none, none, .empty⟩
  allow := ⟨false, false, dropIndex⟩

/-- The statements of `keyMove`. -/
def keyMoveStatements : Bool → List Statement
  | true => [.alter "t" (.dropForeignKey "k"), .dropIndex "t" "k",
      .createIndex ⟨"k", "t", ["b"], false, false⟩,
      .alter "t" (.addForeignKey ⟨"k", "t", "p", [⟨"b", "id"⟩]⟩)]
  | false => [.dropIndex "t" "k", .createIndex ⟨"k", "t", ["b"], false, false⟩,
      .alter "t" (.dropForeignKey "k"),
      .alter "t" (.addForeignKey ⟨"k", "t", "p", [⟨"b", "id"⟩]⟩)]

/-- Where stale keys may be dropped at once the key goes before the index. -/
theorem key_first_in_keyMove :
    (keyMove true).run.outcome = .ok (keyMoveStatements true) ∧
      .alter "t" (.dropForeignKey "k") ∈ keyMoveStatements true ∧
      .dropIndex "t" "k" ∈ keyMoveStatements true ∧
      DropsKeyFirst "t" "k" (keyMoveStatements true) := by
  have hrun : (keyMove true).run.outcome = .ok (keyMoveStatements true) := rfl
  have hkey : .alter "t" (.dropForeignKey "k") ∈ keyMoveStatements true := by
    simp [keyMoveStatements]
  refine ⟨hrun, hkey, by simp [keyMoveStatements], ?_⟩
  exact ((keyMove true).dropsKeyFirst_iff hrun hkey).mpr (Or.inl rfl)

/-- Else the index is dropped while the key still uses it. -/
theorem index_first_in_keyMove :
    (keyMove false).dialect = .mysql ∧
      (keyMove false).run.outcome = .ok (keyMoveStatements false) ∧
      .alter "t" (.dropForeignKey "k") ∈ keyMoveStatements false ∧
      .dropIndex "t" "k" ∈ keyMoveStatements false ∧
      ¬ DropsKeyFirst "t" "k" (keyMoveStatements false) := by
  refine ⟨rfl, rfl, by simp [keyMoveStatements], by simp [keyMoveStatements], fun h => ?_⟩
  -- The drop of the index stands first and that of the key behind it.
  exact (List.pairwise_cons.mp h).1 (.alter "t" (.dropForeignKey "k")) (by simp) rfl rfl

end Migration

end SchemaPlan
