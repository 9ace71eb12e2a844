import SchemaPlan.Proofs.Catalog
import SchemaPlan.Proofs.Migration.Drops

/-!
# The foreign keys after a run

The drops and additions of foreign keys in a run, replayed over the foreign keys that the database
has before.  A new table gets all its keys.  A common table keeps those that stay as they are and
gets a new or changed one when its foreign table is a local table of the new schema; one that
refers elsewhere is dropped and not added again.

* `Migration.foreignKeysAfter_common` says which events decide what a common table has under the
  name of a key.
* `Migration.foreignKeysAfter_added`, `Migration.foreignKeysAfter_of_same` and
  `Migration.foreignKeysAfter_of_changed` say what that is for the three kinds of keys.
-/
namespace SchemaPlan

/-- A drop or an addition of a foreign key as an event. -/
def Statement.keyEvent? : Statement → Option (Event ForeignKey)
  | alter table (.addForeignKey k) => some (.put table k.name k)
  | alter table (.dropForeignKey name) => some (.erase table name)
  | _ => none

theorem Statement.keyEvent?_eq_some {s : Statement} {e : Event ForeignKey}
    (h : s.keyEvent? = some e) :
    (∃ table k, s = .alter table (.addForeignKey k) ∧ e = .put table k.name k) ∨
      (∃ table name, s = .alter table (.dropForeignKey name) ∧ e = .erase table name) := by
  unfold keyEvent? at h
  split at h
  · cases h
    exact Or.inl ⟨_, _, rfl, rfl⟩
  · cases h
    exact Or.inr ⟨_, _, rfl, rfl⟩
  · cases h

theorem Statement.keyEvent?_subject (s : Statement) (e : Event ForeignKey)
    (h : s.keyEvent? = some e) : e.table = s.subject := by
  rcases keyEvent?_eq_some h with ⟨table, k, rfl, rfl⟩ | ⟨table, name, rfl, rfl⟩
  · rfl
  · rfl

/-- Statements on anything else leave the foreign keys alone. -/
theorem keyEvents_eq_nil {statements : List Statement}
    (h : Each (fun s => s.kind ≠ .foreignKey) statements) :
    statements.filterMap Statement.keyEvent? = [] := by
  rw [List.filterMap_eq_nil_iff]
  intro s hs
  rw [Option.eq_none_iff_forall_not_mem]
  intro e he
  rcases Statement.keyEvent?_eq_some he with ⟨table, k, rfl, -⟩ | ⟨table, name, rfl, -⟩
  · exact h _ hs rfl
  · exact h _ hs rfl

namespace Migration

variable (m : Migration) {table name : String} {statements : List Statement} {k : ForeignKey}

/-! ## The events of a table -/

/-- The foreign keys that the database has before: those of the old schema for common tables. -/
def foreignKeysBefore : Catalog ForeignKey := fun table name =>
  if table ∈ m.common then (m.old.foreignKeysOf table).get? name else none

/-- The foreign keys that the database has after these statements. -/
def foreignKeysAfter (statements : List Statement) : Catalog ForeignKey :=
  m.foreignKeysBefore.replay (statements.filterMap Statement.keyEvent?)

theorem foreignKeysAfter_eq (statements : List Statement) :
    m.foreignKeysAfter statements table name =
      m.foreignKeysBefore.replay ((thoseAbout table statements).filterMap Statement.keyEvent?)
        table name :=
  Catalog.replay_thoseAbout _ _ Statement.keyEvent?_subject statements

/-- The events of a change of a foreign key. -/
def keyChangeEvents (table : String) (k : ForeignKey) : List (Event ForeignKey) :=
  (m.keyChange table (m.earlyKeys table) (m.droppedBeforeKeys table) k).filterMap
    Statement.keyEvent?

/-- The foreign keys of a common table are touched by its stale drops and then key by key. -/
theorem thoseAbout_keyEvents (h : m.run.outcome = .ok statements) (hcommon : table ∈ m.common)
    (hlocal : m.databaseOf table = none) :
    (thoseAbout table statements).filterMap Statement.keyEvent? =
      (m.staleDrops table).filterMap Statement.keyEvent? ++
        (m.new.foreignKeysOf table).values.flatMap (m.keyChangeEvents table) := by
  obtain ⟨shape, hshape, heq⟩ := m.thoseAbout_local h hcommon hlocal
  have hindexes : Each (fun s => s.kind ≠ .foreignKey) (m.indexChanges table) := by
    refine (m.each_indexChanges table).mono fun s hs => ?_
    rw [hs.2]
    decide
  have hnone : (shape ++ m.indexChanges table).filterMap Statement.keyEvent? = [] :=
    keyEvents_eq_nil (.append (hshape.mono fun _ hs => hs.2) hindexes)
  rw [heq, List.filterMap_append, List.filterMap_append, hnone, List.append_nil, keyChanges,
    if_neg (by simp [hlocal]), List.filterMap_flatMap]
  rfl

/-- Dropping a foreign key is one event of that key. -/
theorem keyDrop_events (table : String) (dropped : List String) (key : String) :
    (m.keyDrop table dropped key).filterMap Statement.keyEvent? = [.erase table key] := by
  rw [keyDrop]
  split_ifs
  · rfl
  · rfl

theorem staleDrops_events (table : String) :
    (m.staleDrops table).filterMap Statement.keyEvent? =
      (m.earlyKeys table).map (.erase table) := by
  have hindexes : ((m.earlyIndexes table).map (Statement.dropIndex table)).filterMap
      Statement.keyEvent? = [] :=
    keyEvents_eq_nil (.map fun _ _ => nofun)
  rw [staleDrops, List.filterMap_append, hindexes, List.append_nil, List.filterMap_flatMap]
  simp only [keyDrop_events]
  exact (List.map_eq_flatMap).symm

/-- A foreign key that stays as it is is not touched. -/
theorem keyChangeEvents_of_same (hold : (m.old.foreignKeysOf table).get? k.name = some k) :
    m.keyChangeEvents table k = [] := by
  rw [keyChangeEvents, keyChange, if_pos hold]
  rfl

/-- A new or changed foreign key is dropped unless it is gone, and added if it refers to a local
table. -/
theorem keyChangeEvents_of_changed
    (hdiffers : (m.old.foreignKeysOf table).get? k.name ≠ some k) :
    m.keyChangeEvents table k =
      (if ((m.old.foreignKeysOf table).get? k.name).isSome &&
          !(m.earlyKeys table).contains k.name then [.erase table k.name] else []) ++
        if m.refersLocally k then [.put table k.name k] else [] := by
  rw [keyChangeEvents, keyChange, if_neg hdiffers, List.filterMap_append]
  congr 1
  · split_ifs
    · exact m.keyDrop_events table _ k.name
    · rfl
  · split_ifs
    · rfl
    · rfl

/-- The events of a change of a foreign key bear its name. -/
theorem name_of_mem_keyChangeEvents {e : Event ForeignKey} (he : e ∈ m.keyChangeEvents table k) :
    e.name = k.name := by
  by_cases hold : (m.old.foreignKeysOf table).get? k.name = some k
  · rw [m.keyChangeEvents_of_same hold] at he
    cases he
  · rw [m.keyChangeEvents_of_changed hold, List.mem_append, List.mem_ite_nil_right,
      List.mem_ite_nil_right, List.mem_singleton, List.mem_singleton] at he
    rcases he with ⟨-, rfl⟩ | ⟨-, rfl⟩
    · rfl
    · rfl

/-! ## The foreign keys in the end -/

/-- A foreign key of a common table is lost when it is new or changed and does not refer to a
local table of the new schema. -/
def LosesKey (table : String) (k : ForeignKey) : Prop :=
  table ∈ m.common ∧ (m.old.foreignKeysOf table).get? k.name ≠ some k ∧
    m.refersLocally k = false

/-- What a common table has under the name of a foreign key in the end is decided by the stale
drops and the change of that key. -/
theorem foreignKeysAfter_common (h : m.run.outcome = .ok statements) (hcommon : table ∈ m.common)
    (hlocal : m.databaseOf table = none) (hk : k ∈ (m.new.foreignKeysOf table).values) :
    m.foreignKeysAfter statements table k.name =
      (m.foreignKeysBefore.replay ((m.earlyKeys table).map (.erase table) ++
        m.keyChangeEvents table k)) table k.name := by
  have hnodup := (m.new.isTableMap_foreignKeysOf table).keyed.nodup_names
  rw [foreignKeysAfter_eq, m.thoseAbout_keyEvents h hcommon hlocal, staleDrops_events,
    Catalog.replay_append, Catalog.replay_append]
  exact Catalog.replay_flatMap _ hnodup (fun _ _ _ => m.name_of_mem_keyChangeEvents) hk

/-- A foreign key that stays as it is stays. -/
theorem foreignKeysAfter_of_same (h : m.run.outcome = .ok statements)
    (hcommon : table ∈ m.common) (hlocal : m.databaseOf table = none)
    (hk : k ∈ (m.new.foreignKeysOf table).values)
    (hold : (m.old.foreignKeysOf table).get? k.name = some k) :
    m.foreignKeysAfter statements table k.name = some k := by
  have hfound := (m.new.isTableMap_foreignKeysOf table).keyed.get?_name hk
  have hearly : k.name ∉ m.earlyKeys table := by
    rw [mem_earlyKeys]
    exact fun h => m.not_mem_staleKeys (hold.trans hfound.symm) h.2
  rw [m.foreignKeysAfter_common h hcommon hlocal hk, m.keyChangeEvents_of_same hold,
    List.append_nil, Catalog.replay_of_kept _ _ (by simp) (by simpa using hearly),
    foreignKeysBefore, if_pos hcommon]
  exact hold

/-- A foreign key that is new or changed is there in the end exactly when it refers to a local
table. -/
theorem foreignKeysAfter_of_changed (h : m.run.outcome = .ok statements)
    (hcommon : table ∈ m.common) (hlocal : m.databaseOf table = none)
    (hk : k ∈ (m.new.foreignKeysOf table).values)
    (hdiffers : (m.old.foreignKeysOf table).get? k.name ≠ some k) :
    m.foreignKeysAfter statements table k.name = some k ↔ m.refersLocally k = true := by
  rw [m.foreignKeysAfter_common h hcommon hlocal hk, m.keyChangeEvents_of_changed hdiffers,
    ← List.append_assoc]
  cases m.refersLocally k with
  | true =>
    rw [if_pos (show true = true from rfl), Catalog.replay_put _ _ [] k (by simp)]
    simp
  | false =>
    rw [if_neg Bool.false_ne_true, List.append_nil]
    refine iff_of_false ?_ Bool.false_ne_true
    -- Nothing adds the key, so it is as it was before, if it is there at all.
    have hput : ∀ j : ForeignKey, .put table k.name j ∉
        (m.earlyKeys table).map (Event.erase table) ++
        if ((m.old.foreignKeysOf table).get? k.name).isSome &&
          !(m.earlyKeys table).contains k.name then [Event.erase table k.name] else [] := by
      intro j hj
      simp at hj
    intro hthere
    rcases Catalog.replay_of_no_put m.foreignKeysBefore _ hput with hkept | hgone
    · rw [hkept, foreignKeysBefore, if_pos hcommon] at hthere
      exact hdiffers hthere
    · rw [hgone] at hthere
      cases hthere

/-- A new table gets all its foreign keys. -/
theorem foreignKeysAfter_added (h : m.run.outcome = .ok statements) (hadded : table ∈ m.added)
    (hlocal : m.databaseOf table = none) (hk : k ∈ (m.new.foreignKeysOf table).values) :
    m.foreignKeysAfter statements table k.name = some k := by
  have hnodup := (m.new.isTableMap_foreignKeysOf table).keyed.nodup_names
  obtain ⟨hcreated, heq⟩ := m.thoseAbout_added h hadded
  have hnone : (m.created table).filterMap Statement.keyEvent? = [] :=
    keyEvents_eq_nil ((m.plain_created hcreated).mono fun _ hs => hs.2)
  have hkeys : (m.keyCreation table).filterMap Statement.keyEvent? =
      (m.new.foreignKeysOf table).values.flatMap fun k => [Event.put table k.name k] := by
    rw [keyCreation, if_neg (by simp [hlocal]), List.filterMap_map, ← List.map_eq_flatMap]
    show List.filterMap (some ∘ fun k : ForeignKey => Event.put table k.name k) _ = _
    rw [List.filterMap_eq_map]
  have hown : ∀ j ∈ (m.new.foreignKeysOf table).values,
      ∀ e ∈ [Event.put table j.name j], e.name = j.name := by
    intro j _ e he
    rw [List.mem_singleton] at he
    rw [he]
    rfl
  rw [foreignKeysAfter_eq, heq, List.filterMap_append, hnone, List.nil_append, hkeys,
    Catalog.replay_flatMap _ hnodup hown hk]
  exact Catalog.replay_put _ [] [] k (by simp)

/-- **The foreign keys after a run.**  A table that stays in the database or comes to it has each
foreign key of the new schema in the end, except those that it loses. -/
theorem foreignKey_after_run (h : m.run.outcome = .ok statements)
    (hnew : (m.new.table? table).isSome) (hlocal : m.databaseOf table = none)
    (hk : k ∈ (m.new.foreignKeysOf table).values) :
    m.foreignKeysAfter statements table k.name = some k ↔ ¬ m.LosesKey table k := by
  by_cases hcommon : table ∈ m.common
  · by_cases hold : (m.old.foreignKeysOf table).get? k.name = some k
    · simp [m.foreignKeysAfter_of_same h hcommon hlocal hk hold, LosesKey, hold]
    · rw [m.foreignKeysAfter_of_changed h hcommon hlocal hk hold]
      simp [LosesKey, hcommon, hold]
  · have hadded : table ∈ m.added := by
      rw [mem_added, Option.isNone_iff_eq_none]
      refine ⟨hnew, ?_⟩
      by_contra hold
      exact hcommon ((m.mem_common).mpr ⟨Option.isSome_iff_ne_none.mpr hold, hnew⟩)
    simp [m.foreignKeysAfter_added h hadded hlocal hk, LosesKey, hcommon]

/-! ## A key to another database -/

/-- Two foreign keys of a table change their column; one refers to a table of the schema, the
other one to another database. -/
def columnSwap : Migration where
  old := ⟨[.table ⟨"t", [], none, none⟩, .table ⟨"p", [], none, none⟩,
    .foreignKey ⟨"near", "t", "p", [⟨"a", "id"⟩]⟩,
    .foreignKey ⟨"far", "t", "other.p", [⟨"a", "id"⟩]⟩]⟩
  new := ⟨[.table ⟨"t", [], none, none⟩, .table ⟨"p", [], none, none⟩,
    .foreignKey ⟨"near", "t", "p", [⟨"b", "id"⟩]⟩,
    .foreignKey ⟨"far", "t", "other.p", [⟨"b", "id"⟩]⟩]⟩
  deployment := ⟨⟨.mysql, ""⟩, none, none, .empty⟩
  allow := ⟨false, false, true⟩

/-- The statements of `columnSwap`. -/
def columnSwapStatements : List Statement :=
  [.alter "t" (.dropForeignKey "near"), .alter "t" (.dropForeignKey "far"),
    .alter "t" (.addForeignKey ⟨"near", "t", "p", [⟨"b", "id"⟩]⟩)]

/-- The key of `columnSwap` that refers to a table of the schema is there in the end. -/
theorem near_key_after_columnSwap :
    columnSwap.run.outcome = .ok columnSwapStatements ∧
      columnSwap.foreignKeysAfter columnSwapStatements "t" "near" =
        some ⟨"near", "t", "p", [⟨"b", "id"⟩]⟩ := by
  have hrun : columnSwap.run.outcome = .ok columnSwapStatements := rfl
  have hnear : ⟨"near", "t", "p", [⟨"b", "id"⟩]⟩ ∈ (columnSwap.new.foreignKeysOf "t").values := by
    decide
  refine ⟨hrun, (columnSwap.foreignKey_after_run hrun rfl rfl hnear).mpr ?_⟩
  rintro ⟨-, -, helsewhere⟩
  exact absurd helsewhere (by decide)

/-- The other key of `columnSwap` is not: it is dropped and not added again. -/
theorem far_key_lost_by_columnSwap :
    columnSwap.run.outcome = .ok columnSwapStatements ∧
      (columnSwap.new.table? "t").isSome ∧ columnSwap.databaseOf "t" = none ∧
      ⟨"far", "t", "other.p", [⟨"b", "id"⟩]⟩ ∈ (columnSwap.new.foreignKeysOf "t").values ∧
      columnSwap.foreignKeysAfter columnSwapStatements "t" "far" = none :=
  ⟨rfl, rfl, rfl, by decide, by decide⟩

end Migration

end SchemaPlan
