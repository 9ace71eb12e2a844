import SchemaPlan.Proofs.Migration.Columns

/-!
# The shape of a table under changes

The columns of a table in order and its primary key, and what the changes of a table make of them.
A change that does not fit has no result: a column that is dropped or changed is there, one that is
added is not, and the column that a place names is there at that moment.

* `TableShape.replay` applies the changes of a list of statements in order.
* `ColumnPlace.insert_placeAfter` says that the place of a column is right behind the columns that
  are placed before it.
* `TableShape.apply_dropColumn`, `TableShape.apply_addColumn` and `TableShape.apply_changeColumn` say
  what single changes make of a table whose columns before the place are done.
-/
namespace SchemaPlan

/-! ## Places -/

/-- Puts a column behind the first one of this name. -/
def insertBehind (name : String) (c : Column) : List Column → Option (List Column)
  | [] => none
  | d :: rest =>
    if d.name = name then some (d :: c :: rest)
    else (insertBehind name c rest).map (d :: ·)

theorem insertBehind_append {c d : Column} {init rest : List Column}
    (h : d.name ∉ init.map Column.name) :
    insertBehind d.name c (init ++ d :: rest) = some (init ++ d :: c :: rest) := by
  induction init with
  | nil => rw [List.nil_append, insertBehind, if_pos rfl, List.nil_append]
  | cons a init ih =>
    rw [List.map_cons, List.mem_cons, not_or] at h
    rw [List.cons_append, insertBehind, if_neg fun ha => h.1 ha.symm, ih h.2]
    rfl

/-- Puts a column at a place; without a place it comes last. -/
def ColumnPlace.insert (c : Column) (columns : List Column) : ColumnPlace → Option (List Column)
  | unplaced => some (columns ++ [c])
  | first => some (c :: columns)
  | after name => insertBehind name c columns

/-- A column that is placed after the last one of some columns comes right behind them. -/
theorem ColumnPlace.insert_placeAfter {c : Column} {before rest : List Column}
    (h : (before.map Column.name).Nodup) :
    (placeAfter .mysql (before.getLast?.map Column.name)).insert c (before ++ rest) =
      some (before ++ c :: rest) := by
  rcases List.eq_nil_or_concat before with rfl | ⟨init, last, rfl⟩
  · rfl
  · rw [List.concat_eq_append] at h ⊢
    rw [List.map_append, List.nodup_append] at h
    have hlast : last.name ∉ init.map Column.name := fun hmem =>
      h.2.2 _ hmem _ (List.mem_singleton_self _) rfl
    rw [List.getLast?_concat, List.append_assoc, List.append_assoc]
    exact insertBehind_append hlast

/-! ## Shapes -/

/-- The columns of a table in order, and its primary key. -/
structure TableShape where
  columns : List Column
  primaryKey : Option (List String)

namespace TableShape

/-- Whether there is a column of this name. -/
def has (s : TableShape) (name : String) : Bool :=
  (s.columns.map Column.name).contains name

/-- The columns of other names. -/
def others (s : TableShape) (name : String) : List Column :=
  s.columns.filter fun c => c.name != name

/-- What a change of the columns or the primary key makes of a table.  A change that does not fit
has no result, nor has one of another kind. -/
def apply (s : TableShape) : Change → Option TableShape
  | .dropColumn name => if s.has name then some ⟨s.others name, s.primaryKey⟩ else none
  | .addColumn c place =>
    if s.has c.column.name then none
    else (place.insert c.column s.columns).map fun columns => ⟨columns, s.primaryKey⟩
  | .changeColumn c place =>
    if s.has c.column.name then
      (place.insert c.column (s.others c.column.name)).map fun columns => ⟨columns, s.primaryKey⟩
    else none
  | .dropPrimaryKey => if s.primaryKey.isSome then some ⟨s.columns, none⟩ else none
  | .addPrimaryKey key => if s.primaryKey.isSome then none else some ⟨s.columns, some key⟩
  | _ => none

/-- What statements that change this table make of it. -/
def replay (table : String) (s : TableShape) : List Statement → Option TableShape
  | [] => some s
  | .alter name change :: rest =>
    if name = table then (s.apply change).bind fun s => s.replay table rest else none
  | _ :: _ => none

variable {table : String} {s : TableShape}

theorem replay_append (xs ys : List Statement) :
    s.replay table (xs ++ ys) = (s.replay table xs).bind fun s => s.replay table ys := by
  induction xs generalizing s with
  | nil => rfl
  | cons x xs ih =>
    cases x with
    | alter name change =>
      rw [List.cons_append, replay, replay]
      split_ifs
      · rw [Option.bind_assoc]
        exact congrArg _ (funext fun s => ih)
      · rfl
    | _ => rfl

theorem replay_singleton (change : Change) :
    s.replay table [.alter table change] = s.apply change := by
  rw [replay, if_pos rfl]
  exact Option.bind_fun_some _

/-! ## Single changes -/

theorem has_iff {name : String} : s.has name = true ↔ name ∈ s.columns.map Column.name := by
  rw [has, List.contains_iff_mem]

section

variable {primaryKey : Option (List String)} {o : Column} {c : TypedColumn}
  {before rest : List Column}

theorem has_append_cons : has ⟨before ++ o :: rest, primaryKey⟩ o.name = true := by
  rw [has_iff, List.map_append, List.map_cons]
  exact List.mem_append_right _ List.mem_cons_self

/-- The columns of other names than one of distinct names are those before and behind it. -/
theorem others_append_cons (hbefore : o.name ∉ before.map Column.name)
    (hrest : o.name ∉ rest.map Column.name) :
    others ⟨before ++ o :: rest, primaryKey⟩ o.name = before ++ rest := by
  have hkeep : ∀ columns : List Column, o.name ∉ columns.map Column.name →
      columns.filter (fun d => d.name != o.name) = columns := by
    intro columns hnot
    rw [List.filter_eq_self]
    intro d hd
    rw [bne_iff_ne]
    exact fun h => hnot (h ▸ List.mem_map_of_mem hd)
  rw [others, List.filter_append, List.filter_cons_of_neg (by simp), hkeep before hbefore,
    hkeep rest hrest]

/-- A column that is there is dropped, and the others stay. -/
theorem apply_dropColumn (hbefore : o.name ∉ before.map Column.name)
    (hrest : o.name ∉ rest.map Column.name) :
    apply ⟨before ++ o :: rest, primaryKey⟩ (.dropColumn o.name) =
      some ⟨before ++ rest, primaryKey⟩ := by
  rw [apply, if_pos has_append_cons, others_append_cons hbefore hrest]

/-- A column that is not there is added behind those before it. -/
theorem apply_addColumn (hnodup : (before.map Column.name).Nodup)
    (hbefore : c.column.name ∉ before.map Column.name)
    (hrest : c.column.name ∉ rest.map Column.name) :
    apply ⟨before ++ rest, primaryKey⟩
        (.addColumn c (placeAfter .mysql (before.getLast?.map Column.name))) =
      some ⟨before ++ c.column :: rest, primaryKey⟩ := by
  have hhas : ¬ has ⟨before ++ rest, primaryKey⟩ c.column.name = true := by
    rw [has_iff, List.map_append, List.mem_append, not_or]
    exact ⟨hbefore, hrest⟩
  rw [apply, if_neg hhas, ColumnPlace.insert_placeAfter hnodup]
  rfl

/-- A column whose turn it is is changed where it is. -/
theorem apply_changeColumn (ho : o.name = c.column.name) (hnodup : (before.map Column.name).Nodup)
    (hbefore : c.column.name ∉ before.map Column.name)
    (hrest : c.column.name ∉ rest.map Column.name) :
    apply ⟨before ++ o :: rest, primaryKey⟩
        (.changeColumn c (placeAfter .mysql (before.getLast?.map Column.name))) =
      some ⟨before ++ c.column :: rest, primaryKey⟩ := by
  rw [← ho] at hbefore hrest
  rw [apply, ← ho, if_pos has_append_cons, others_append_cons hbefore hrest,
    ColumnPlace.insert_placeAfter hnodup]
  rfl

end

/-- The changes of the primary key lead from the old key to the new one. -/
theorem replay_primaryKeyChanges (old new : Table) (columns : List Column) :
    replay new.name ⟨columns, old.primaryKey⟩ (primaryKeyChanges old new) =
      some ⟨columns, new.primaryKey⟩ := by
  by_cases hsame : old.primaryKey = new.primaryKey
  · rw [primaryKeyChanges, if_pos hsame, hsame]
    rfl
  · rw [primaryKeyChanges, if_neg hsame]
    cases old.primaryKey with
    | none =>
      cases new.primaryKey with
      | none => rfl
      | some key => simp [replay, apply]
    | some oldKey =>
      cases new.primaryKey with
      | none => simp [replay, apply]
      | some key => simp [replay, apply]

end TableShape

end SchemaPlan
