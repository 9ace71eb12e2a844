import Mathlib.Logic.Basic
import Mathlib.Tactic.SplitIfs
import SchemaPlan.Creation
import SchemaPlan.Proofs.Noted

/-!
# Columns with their types

A column of the vocabulary is given its type in a dialect and its default is written, unless one of
its numbers has too many digits.

* `Column.typed_eq_ok_iff` takes the computation apart.
* `Column.exists_typed_iff` says exactly which numbers have to be short enough.
-/
namespace SchemaPlan

namespace Column

variable {c : Column} {d : Dialect} {t : BaseType}

/-- The numbers that the definition of a column is written with are short enough. -/
structure NumbersFit (c : Column) (d : Dialect) : Prop where
  size : ∀ t, c.type = .base t → t.showsSize d = true → Numeral.isWritable c.size = true
  scale : c.type = .base .decimal → Numeral.isWritable c.scale = true
  integer : ∀ n, c.default = some (.int n) → Numeral.isWritable n = true

theorem typed_eq_ok_iff {typed : TypedColumn} :
    c.typed d = .ok typed ↔
      ∃ type, c.sqlType d = .ok type ∧ c.checkDefault = .ok () ∧ typed = ⟨c, type⟩ := by
  rw [Column.typed, bind_eq_ok_iff]
  simp only [bind_pure_eq_ok_iff]
  constructor
  · rintro ⟨type, htype, _, hdefault, rfl⟩
    exact ⟨type, htype, hdefault, rfl⟩
  · rintro ⟨type, htype, hdefault, rfl⟩
    exact ⟨type, htype, (), hdefault, rfl⟩

/-- Giving a column its type leaves it as it is. -/
theorem column_of_typed {typed : TypedColumn} (h : c.typed d = .ok typed) : typed.column = c := by
  obtain ⟨type, -, -, rfl⟩ := typed_eq_ok_iff.mp h
  rfl

theorem checkNumbers_eq_ok_iff :
    c.checkNumbers t d = .ok () ↔
      (t.showsSize d = true → Numeral.isWritable c.size = true) ∧
        (t = .decimal → Numeral.isWritable c.scale = true) := by
  have hfits : ((!t.showsSize d || Numeral.isWritable c.size) &&
      (t != .decimal || Numeral.isWritable c.scale)) = true ↔
      (t.showsSize d = true → Numeral.isWritable c.size = true) ∧
        (t = .decimal → Numeral.isWritable c.scale = true) := by
    simp only [Bool.and_eq_true, Bool.or_eq_true, Bool.not_eq_true', bne_iff_ne,
      ← Bool.not_eq_true, imp_iff_not_or]
  rw [← hfits]
  unfold checkNumbers
  split_ifs with h
  · exact iff_of_true rfl h
  · exact iff_of_false nofun h

theorem checkDefault_eq_ok_iff :
    c.checkDefault = .ok () ↔ ∀ n, c.default = some (.int n) → Numeral.isWritable n = true := by
  unfold checkDefault
  cases c.default with
  | none => simp
  | some value =>
    cases value with
    | text s => simp [Literal.checkWritable]
    | bytes b => simp [Literal.checkWritable]
    | int n => cases hn : Numeral.isWritable n <;> simp [Literal.checkWritable, hn]
    | decimal x => simp [Literal.checkWritable]

theorem exists_sqlType_iff (ht : c.type = .base t) :
    (∃ type, c.sqlType d = .ok type) ↔ c.checkNumbers t d = .ok () := by
  rw [sqlType, ht]
  constructor
  · rintro ⟨type, h⟩
    obtain ⟨_, hnumbers, -⟩ := (bind_pure_eq_ok_iff _ _ _).mp h
    exact hnumbers
  · intro hnumbers
    exact ⟨_, (bind_pure_eq_ok_iff _ _ _).mpr ⟨(), hnumbers, rfl⟩⟩

/-- A column of the vocabulary can be written exactly when its numbers fit. -/
theorem exists_typed_iff (h : ∃ t, c.type = .base t) :
    (∃ typed, c.typed d = .ok typed) ↔ c.NumbersFit d := by
  obtain ⟨t, ht⟩ := h
  have hparts : (∃ typed, c.typed d = .ok typed) ↔
      (∃ type, c.sqlType d = .ok type) ∧ c.checkDefault = .ok () := by
    simp only [typed_eq_ok_iff]
    constructor
    · rintro ⟨typed, type, htype, hdefault, -⟩
      exact ⟨⟨type, htype⟩, hdefault⟩
    · rintro ⟨⟨type, htype⟩, hdefault⟩
      exact ⟨⟨c, type⟩, type, htype, hdefault, rfl⟩
  rw [hparts, exists_sqlType_iff ht, checkNumbers_eq_ok_iff, checkDefault_eq_ok_iff]
  constructor
  · rintro ⟨⟨hsize, hscale⟩, hinteger⟩
    refine ⟨fun u hu => ?_, fun hu => ?_, hinteger⟩
    · rw [ht] at hu
      cases hu
      exact hsize
    · rw [ht] at hu
      cases hu
      exact hscale rfl
  · intro hfit
    exact ⟨⟨hfit.size t ht, fun hu => hfit.scale (hu ▸ ht)⟩, hfit.integer⟩

end Column

end SchemaPlan
