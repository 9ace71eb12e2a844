import Mathlib.Tactic.Push
import SchemaPlan.Table

/-!
# Tables that pass their checks

Building a table changes nothing of its parts; it checks that at most one column numbers the rows.

* `Table.buildWith_eq_ok_iff` says when a table is built.
* `Table.IsBuilt.numbering_cases` says what the check leaves of the columns: none that numbers the
  rows, or one among others that do not.
-/
namespace SchemaPlan.Table

section Names

variable {ν : Type} {isOnly? : List ν → ν → Option Bool} {shown : String} {name : ν}
  {columns : List (Column ν)} {primaryKey : Option (List ν)} {group : Option ν} {t : Table ν}

/-- A table is built from its parts when at most one column numbers the rows, and that one is all
there is of the primary key. -/
theorem buildWith_eq_ok_iff :
    buildWith isOnly? shown name columns primaryKey group = .ok t ↔
      t = ⟨name, columns, primaryKey, group⟩ ∧
        ((columns.filter fun c => c.autoIncrement) = [] ∨
          ∃ c key, (columns.filter fun c => c.autoIncrement) = [c] ∧ primaryKey = some key ∧
            isOnly? key c.name = some true) := by
  unfold buildWith
  generalize columns.filter (fun c => c.autoIncrement) = numbering
  match numbering with
  | [] => simp [eq_comm]
  | [c] =>
    cases primaryKey with
    | none => simp
    | some key =>
      cases honly : isOnly? key c.name with
      | none => simp [honly]
      | some only => cases only <;> simp [honly, eq_comm]
  | c :: d :: rest => simp

end Names

variable {t : Table}

/-- A table that the checks of `Table.build` let through. -/
def IsBuilt (t : Table) : Prop :=
  Table.build t.name t.columns t.primaryKey t.group = .ok t

/-- At most one column numbers the rows. -/
theorem IsBuilt.length_le (h : t.IsBuilt) :
    (t.columns.filter fun c => c.autoIncrement).length ≤ 1 := by
  rcases (buildWith_eq_ok_iff.mp h).2 with hnone | ⟨c, key, hone, -⟩
  · rw [hnone]
    exact Nat.zero_le 1
  · rw [hone]
    exact Nat.le_refl 1

/-- Beside a column that numbers the rows no other one does. -/
theorem IsBuilt.autoIncrement_of_append (h : t.IsBuilt) {pre post : List Column} {c : Column}
    (heq : t.columns = pre ++ c :: post) (hauto : c.autoIncrement = true) :
    ∀ d ∈ pre ++ post, d.autoIncrement = false := by
  have hlength : (pre ++ c :: post).countP Column.autoIncrement ≤ 1 := by
    rw [← heq, List.countP_eq_length_filter]
    exact h.length_le
  rw [List.countP_append, List.countP_cons_of_pos hauto] at hlength
  have hnone : (pre ++ post).countP Column.autoIncrement = 0 := by
    rw [List.countP_append]
    omega
  intro d hd
  exact Bool.eq_false_iff.mpr (List.countP_eq_zero.mp hnone d hd)

/-- Either no column numbers the rows, or one does and the others do not. -/
theorem IsBuilt.numbering_cases (h : t.IsBuilt) :
    (∀ c ∈ t.columns, c.autoIncrement = false) ∨
      ∃ pre c post, t.columns = pre ++ c :: post ∧ c.autoIncrement = true ∧
        ∀ d ∈ pre ++ post, d.autoIncrement = false := by
  by_cases hall : ∀ c ∈ t.columns, c.autoIncrement = false
  · exact Or.inl hall
  · right
    push Not at hall
    obtain ⟨c, hc, hne⟩ := hall
    obtain ⟨pre, post, heq⟩ := List.mem_iff_append.mp hc
    have hauto : c.autoIncrement = true := eq_true_of_ne_false hne
    exact ⟨pre, c, post, heq, hauto, h.autoIncrement_of_append heq hauto⟩

end SchemaPlan.Table
