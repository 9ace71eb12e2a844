import SchemaPlan.Proofs.Schema.Views

/-!
# Parts of a schema

What a schema has of a table depends on the entities of that table alone, and on their order.  So
the part of a schema that some of its tables make up has the same views of them, and entities of
other tables may stand between theirs.

* `Schema.ofTables` is the part for the tables whose names have a property;
  `Schema.agreesOn_ofTables` says that it has all that the schema has of them.
* `Interleaves` says that a list is put together from two others; `Schema.IsSumOf` that a schema is,
  and `Schema.IsSumOf.ofTables_base` and `Schema.IsSumOf.ofTables_extra` find the two in it.
-/
namespace SchemaPlan

namespace Entity

theorem tableName_of_table? (e : Entity) (t : Table) (h : e.table? = some t) :
    t.name = e.tableName := by
  cases e <;> cases h
  rfl

theorem tableName_of_index? (e : Entity) (i : Index) (h : e.index? = some i) :
    i.table = e.tableName := by
  cases e <;> cases h
  rfl

theorem tableName_of_foreignKey? (e : Entity) (k : ForeignKey) (h : e.foreignKey? = some k) :
    k.table = e.tableName := by
  cases e <;> cases h
  rfl

theorem tableName_of_seed? (e : Entity) (r : SeedRow) (h : e.seed? = some r) :
    r.table = e.tableName := by
  cases e <;> cases h
  rfl

end Entity

namespace Schema

variable {s : Schema} {p : String → Bool} {name : String}

/-- The entities of the tables whose names have a property. -/
def ofTables (s : Schema) (p : String → Bool) : Schema :=
  ⟨s.entities.filter fun e => p e.tableName⟩

/-- The things of one kind are kept with their tables. -/
theorem filterMap_ofTables {α : Type} {kind? : Entity → Option α} {tableOf : α → String}
    (hkind : ∀ e a, kind? e = some a → tableOf a = e.tableName) :
    (s.ofTables p).entities.filterMap kind? =
      (s.entities.filterMap kind?).filter fun a => p (tableOf a) := by
  rw [ofTables, List.filterMap_filter, List.filter_filterMap]
  refine List.filterMap_congr fun e _ => ?_
  cases h : kind? e with
  | none => simp
  | some a => simp [Option.filter, hkind e a h]

/-- Of a table that is kept all things of one kind are. -/
theorem filter_ofTables {α : Type} {kind? : Entity → Option α} {tableOf : α → String}
    (hkind : ∀ e a, kind? e = some a → tableOf a = e.tableName) (hp : p name = true) :
    ((s.ofTables p).entities.filterMap kind?).filter (fun a => tableOf a == name) =
      (s.entities.filterMap kind?).filter fun a => tableOf a == name := by
  rw [filterMap_ofTables hkind, List.filter_filter]
  refine List.filter_congr fun a _ => ?_
  by_cases ha : tableOf a = name
  · simp [ha, hp]
  · simp [ha]

/-- Two schemas have the same of a table. -/
structure AgreesOn (s u : Schema) (name : String) : Prop where
  table : s.table? name = u.table? name
  indexes : s.indexesOf name = u.indexesOf name
  keys : s.foreignKeysOf name = u.foreignKeysOf name
  seeds : s.seedsOf name = u.seedsOf name

theorem AgreesOn.symm {s u : Schema} (h : s.AgreesOn u name) : u.AgreesOn s name :=
  ⟨h.table.symm, h.indexes.symm, h.keys.symm, h.seeds.symm⟩

/-- A part of a schema has all that the schema has of its tables. -/
theorem agreesOn_ofTables (s : Schema) (p : String → Bool) (hp : p name = true) :
    s.AgreesOn (s.ofTables p) name where
  table := by
    rw [table?_eq, table?_eq, ← List.head?_filter, ← List.head?_filter]
    exact congrArg List.head? (filter_ofTables Entity.tableName_of_table? hp).symm
  indexes := by
    rw [indexesOf_eq, indexesOf_eq]
    exact congrArg _ (filter_ofTables Entity.tableName_of_index? hp).symm
  keys := by
    rw [foreignKeysOf_eq, foreignKeysOf_eq]
    exact congrArg _ (filter_ofTables Entity.tableName_of_foreignKey? hp).symm
  seeds := by
    rw [seedsOf_eq, seedsOf_eq]
    exact (filter_ofTables Entity.tableName_of_seed? hp).symm

/-- The tables that are kept stay in order. -/
theorem tableNames_ofTables : (s.ofTables p).tableNames = s.tableNames.filter p := by
  rw [tableNames, tableNames, tables_eq, tables_eq, declaredTables,
    filterMap_ofTables Entity.tableName_of_table?]
  exact Ordered.keys_foldl_putNew_filter p rfl

end Schema

/-! ## Interleavings -/

/-- A list has the items of two lists, those of each one in order. -/
inductive Interleaves {α : Type} : List α → List α → List α → Prop where
  | nil : Interleaves [] [] []
  | left {x : α} {xs ys zs : List α} (h : Interleaves xs ys zs) : Interleaves (x :: xs) ys (x :: zs)
  | right {y : α} {xs ys zs : List α} (h : Interleaves xs ys zs) :
      Interleaves xs (y :: ys) (y :: zs)

namespace Interleaves

variable {α : Type} {xs ys zs : List α}

theorem symm (h : Interleaves xs ys zs) : Interleaves ys xs zs := by
  induction h with
  | nil => exact .nil
  | left _ ih => exact .right ih
  | right _ ih => exact .left ih

/-- Items that a property tells apart from the others are found again in their order. -/
theorem filter_eq_left (h : Interleaves xs ys zs) {p : α → Bool} (hx : ∀ x ∈ xs, p x = true)
    (hy : ∀ y ∈ ys, p y = false) : zs.filter p = xs := by
  induction h with
  | nil => rfl
  | left _ ih =>
    rw [List.filter_cons_of_pos (hx _ List.mem_cons_self),
      ih (fun x hmem => hx x (List.mem_cons_of_mem _ hmem)) hy]
  | right _ ih =>
    rw [List.filter_cons_of_neg (by simp [hy _ List.mem_cons_self]),
      ih hx fun y hmem => hy y (List.mem_cons_of_mem _ hmem)]

theorem self_left (xs : List α) : Interleaves xs [] xs := by
  induction xs with
  | nil => exact .nil
  | cons x rest ih => exact .left ih

theorem append {xs' ys' zs' : List α} (h : Interleaves xs ys zs) (h' : Interleaves xs' ys' zs') :
    Interleaves (xs ++ xs') (ys ++ ys') (zs ++ zs') := by
  induction h with
  | nil => exact h'
  | left _ ih => exact .left ih
  | right _ ih => exact .right ih

theorem map {β : Type} (f : α → β) (h : Interleaves xs ys zs) :
    Interleaves (xs.map f) (ys.map f) (zs.map f) := by
  induction h with
  | nil => exact .nil
  | left _ ih => exact .left ih
  | right _ ih => exact .right ih

theorem sublist_left (h : Interleaves xs ys zs) : xs.Sublist zs := by
  induction h with
  | nil => exact .slnil
  | left _ ih => exact ih.cons_cons _
  | right _ ih => exact ih.cons _

theorem perm (h : Interleaves xs ys zs) : (xs ++ ys).Perm zs := by
  induction h with
  | nil => exact .nil
  | left _ ih => exact ih.cons _
  | right _ ih => exact List.perm_middle.trans (ih.cons _)

/-- What the items with a property make, and what the others make, is what all of them make. -/
theorem flatMap_filter {β : Type} (p : α → Bool) (f : α → List β) (xs : List α) :
    Interleaves ((xs.filter p).flatMap f) ((xs.filter fun x => !p x).flatMap f) (xs.flatMap f) := by
  induction xs with
  | nil => exact .nil
  | cons x rest ih =>
    cases hp : p x with
    | true =>
      rw [List.filter_cons_of_pos hp, List.filter_cons_of_neg (by simp [hp])]
      exact (self_left (f x)).append ih
    | false =>
      rw [List.filter_cons_of_neg (by simp [hp]), List.filter_cons_of_pos (by simp [hp])]
      exact (self_left (f x)).symm.append ih

end Interleaves

/-! ## Schemas put together -/

namespace Schema

/-- Whatever is declared for a table is declared for a table that is there. -/
def IsSelfContained (s : Schema) : Prop :=
  ∀ e ∈ s.entities, (s.table? e.tableName).isSome

/-- Each index is declared for a table that is there. -/
def HasTablesOfIndexes (s : Schema) : Prop :=
  ∀ i ∈ s.declaredIndexes, (s.table? i.table).isSome

theorem IsSelfContained.hasTablesOfIndexes {s : Schema} (h : s.IsSelfContained) :
    s.HasTablesOfIndexes :=
  fun _ hi => h _ (s.mem_declaredIndexes.mp hi)

/-- A schema is put together from two others, the second of which has all its tables for itself. -/
structure IsSumOf (joint base extra : Schema) : Prop where
  interleaves : Interleaves base.entities extra.entities joint.entities
  contained : extra.IsSelfContained
  apart : ∀ e ∈ base.entities, extra.table? e.tableName = none

namespace IsSumOf

variable {joint base extra : Schema} {name : String}

/-- The second schema is the part of its tables. -/
theorem ofTables_extra (h : joint.IsSumOf base extra) :
    joint.ofTables (fun n => (extra.table? n).isSome) = extra :=
  congrArg Schema.mk (h.interleaves.symm.filter_eq_left h.contained fun e he => by
    simp [h.apart e he])

/-- The first schema is the part of all other tables. -/
theorem ofTables_base (h : joint.IsSumOf base extra) :
    joint.ofTables (fun n => (extra.table? n).isNone) = base :=
  congrArg Schema.mk (h.interleaves.filter_eq_left (fun e he => by simp [h.apart e he])
    fun e he => Option.isNone_eq_false_iff.mpr (h.contained e he))

theorem agreesOn_extra (h : joint.IsSumOf base extra) (hname : (extra.table? name).isSome) :
    joint.AgreesOn extra name := by
  have hpart := joint.agreesOn_ofTables (fun n => (extra.table? n).isSome) hname
  rwa [h.ofTables_extra] at hpart

theorem agreesOn_base (h : joint.IsSumOf base extra) (hname : extra.table? name = none) :
    joint.AgreesOn base name := by
  have hpart := joint.agreesOn_ofTables (fun n => (extra.table? n).isNone)
    (Option.isNone_iff_eq_none.mpr hname)
  rwa [h.ofTables_base] at hpart

/-- A table of the first schema is none of the second one. -/
theorem table?_eq_none_of_base (h : joint.IsSumOf base extra) (hname : (base.table? name).isSome) :
    extra.table? name = none := by
  obtain ⟨t, ht⟩ := Option.isSome_iff_exists.mp hname
  obtain ⟨rfl, hmem⟩ := base.table?_eq_some ht
  exact h.apart _ hmem

/-- The tables that only both together have are those of the second schema, in order. -/
theorem tableNames_filter (h : joint.IsSumOf base extra) :
    joint.tableNames.filter (fun name => (base.table? name).isNone) = extra.tableNames := by
  rw [← congrArg tableNames h.ofTables_extra, tableNames_ofTables]
  refine List.filter_congr fun name hname => ?_
  cases hextra : extra.table? name with
  | some t =>
    cases hbase : base.table? name with
    | none => rfl
    | some u =>
      rw [h.table?_eq_none_of_base (by rw [hbase]; rfl)] at hextra
      cases hextra
  | none =>
    rw [mem_tableNames, (h.agreesOn_base hextra).table] at hname
    rw [Option.isNone_eq_false_iff.mpr hname, Option.isSome_none]

/-- No table of the first schema is missing from both together. -/
theorem tableNames_filter_base (h : joint.IsSumOf base extra) :
    base.tableNames.filter (fun name => (joint.table? name).isNone) = [] := by
  rw [List.filter_eq_nil_iff]
  intro name hname
  rw [mem_tableNames] at hname
  rw [(h.agreesOn_base (h.table?_eq_none_of_base hname)).table, Option.isNone_iff_eq_none,
    ← Option.not_isSome_iff_eq_none]
  exact not_not_intro hname

end IsSumOf

end Schema

end SchemaPlan
