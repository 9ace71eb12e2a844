import Mathlib.Data.List.Forall2
import SchemaPlan.Proofs.Doc.Equality
import SchemaPlan.Proofs.Schema.Views

/-!
# Equality of schemas

Columns, tables and schemas are equal part by part, with numbers compared by value and the rest as
it stands.  Schemas that are equal have the same indexes and foreign keys for every table, and
their tables correspond.

* `Column.same?_trans` says that equality of columns is transitive, and
  `Column.HasQuietDefault.sameDefault?_ne_none` when a comparison has an answer at all.
* `Table.same?_iff` and `Schema.same?_iff` take equality apart.
* `Schema.indexesOf_of_same` and `Schema.foreignKeysOf_of_same` say that equal schemas have the same
  maps, `Schema.table?_of_same` that a name finds equal tables in them or none in both.
-/
namespace SchemaPlan

theorem andThen?_eq_true_iff {first second : Option Bool} :
    andThen? first second = some true ↔ first = some true ∧ second = some true := by
  unfold andThen?
  split
  · simp
  · next h =>
    constructor
    · intro hfirst
      exact absurd hfirst h
    · rintro ⟨hfirst, -⟩
      exact absurd hfirst h

theorem andThen?_ne_none {first second : Option Bool} (hfirst : first ≠ none)
    (hsecond : second ≠ none) : andThen? first second ≠ none := by
  unfold andThen?
  split
  · exact hsecond
  · exact hfirst

/-! ## Defaults and types -/

namespace Literal

variable {a b c : Literal}

/-- A number is equal to a number of its value and to nothing else. -/
theorem same?_of_number {d : Decimal} (h : a.number? = some d) :
    a.same? b = some true ↔ ∃ e, b.number? = some e ∧ d.sameValue? e = some true := by
  cases a with
  | text s => cases h
  | bytes s => cases h
  | int n =>
    cases h
    cases b <;> simp [same?, number?]
  | decimal n =>
    cases h
    cases b <;> simp [same?, number?]

theorem same?_trans (hab : a.same? b = some true) (hbc : b.same? c = some true) :
    a.same? c = some true := by
  cases hnumber : a.number? with
  | some d =>
    obtain ⟨e, he, hde⟩ := (same?_of_number hnumber).mp hab
    obtain ⟨f, hf, hef⟩ := (same?_of_number he).mp hbc
    exact (same?_of_number hnumber).mpr ⟨f, hf, Decimal.sameValue?_trans hde hef⟩
  | none =>
    -- What is no number is a text or bytes, and equality is that of the content.
    have heq : a = b := by
      cases a <;> cases b <;> simp_all [same?, number?]
    rw [heq]
    exact hbc

/-- The comparison of literals has an answer when that of their numbers has one. -/
theorem same?_ne_none
    (h : ∀ d e, a.number? = some d → b.number? = some e → d.sameValue? e ≠ none) :
    a.same? b ≠ none := by
  cases hnumber : a.number? with
  | none => cases a <;> cases b <;> simp_all [same?, number?]
  | some d =>
    cases hother : b.number? with
    | none => cases a <;> cases b <;> simp_all [same?, number?]
    | some e =>
      have hsome := h d e hnumber hother
      -- Two numbers are compared as such; the other pairs have no two numbers.
      cases a <;> cases b <;> simp_all [same?, number?]

end Literal

theorem sameDefault?_trans {a b c : Option Literal} (hab : sameDefault? a b = some true)
    (hbc : sameDefault? b c = some true) : sameDefault? a c = some true := by
  cases a with
  | none => cases b <;> simp_all [sameDefault?]
  | some x =>
    cases b with
    | none => simp [sameDefault?] at hab
    | some y =>
      cases c with
      | none => simp [sameDefault?] at hbc
      | some z => exact Literal.same?_trans hab hbc

theorem ColumnType.same?_trans {a b c : ColumnType} (hab : a.same? b = some true)
    (hbc : b.same? c = some true) : a.same? c = some true := by
  cases a with
  | base s => cases b <;> cases c <;> simp_all [same?]
  | other x =>
    cases b with
    | base t => simp [same?] at hab
    | other y =>
      cases c with
      | base u => simp [same?] at hbc
      | other z => exact Doc.same?_trans hab hbc

/-! ## Columns -/

namespace Column

variable {a b c : Column}

/-- The fields of a column that are compared as they stand. -/
def plainFields {ν : Type} (c : Column ν) :=
  (c.name, c.size, c.scale, c.nullable, c.systemDefault, c.autoIncrement, c.withTimeZone,
    c.enumValues)

/-- Columns are equal when their types and defaults are and all other fields agree. -/
theorem same?_iff :
    a.same? b = some true ↔ a.plainFields = b.plainFields ∧ a.type.same? b.type = some true ∧
      sameDefault? a.default b.default = some true := by
  simp only [same?, andThen?_eq_true_iff, Option.some.injEq, beq_iff_eq, Bool.and_eq_true,
    plainFields, Prod.mk.injEq]
  tauto

theorem same?_trans (hab : a.same? b = some true) (hbc : b.same? c = some true) :
    a.same? c = some true := by
  rw [same?_iff] at hab hbc ⊢
  exact ⟨hab.1.trans hbc.1, ColumnType.same?_trans hab.2.1 hbc.2.1,
    sameDefault?_trans hab.2.2 hbc.2.2⟩

theorem name_of_same? (h : a.same? b = some true) : a.name = b.name :=
  congrArg Prod.fst (same?_iff.mp h).1

theorem autoIncrement_of_same? (h : a.same? b = some true) : a.autoIncrement = b.autoIncrement :=
  congrArg (fun fields => fields.2.2.2.2.2.1) (same?_iff.mp h).1

end Column

/-! ## Quiet defaults -/

/-- The default of a column is no signalling number. -/
def Column.HasQuietDefault (c : Column) : Prop :=
  ∀ x, c.default = some (.decimal x) → x.isSignalling = false

namespace Column.HasQuietDefault

variable {a b : Column}

theorem isSignalling (h : a.HasQuietDefault) {value : Literal} (hvalue : a.default = some value)
    {x : Decimal} (hx : value.number? = some x) : x.isSignalling = false := by
  cases value with
  | text s => cases hx
  | bytes s => cases hx
  | int n =>
    cases hx
    rfl
  | decimal y =>
    cases hx
    exact h _ hvalue

/-- Where no signalling number takes part the comparison of defaults has an answer. -/
theorem sameDefault?_ne_none (ha : a.HasQuietDefault) (hb : b.HasQuietDefault) :
    sameDefault? a.default b.default ≠ none := by
  cases hx : a.default with
  | none => cases b.default <;> simp [sameDefault?]
  | some x =>
    cases hy : b.default with
    | none => simp [sameDefault?]
    | some y =>
      refine Literal.same?_ne_none fun d e hd he => ?_
      rw [Decimal.sameValue?, ha.isSignalling hx hd, hb.isSignalling hy he]
      split_ifs <;> simp_all

end Column.HasQuietDefault

/-- The comparison with a column of the vocabulary has an answer when that of the defaults has
one. -/
theorem Column.same?_ne_none_of_base {a b : Column} (hb : ∃ t, b.type = .base t)
    (hdefault : sameDefault? a.default b.default ≠ none) : a.same? b ≠ none := by
  obtain ⟨t, ht⟩ := hb
  have htype : a.type.same? b.type ≠ none := by
    rw [ht]
    cases a.type <;> simp [ColumnType.same?]
  refine andThen?_ne_none (Option.some_ne_none _) (andThen?_ne_none htype ?_)
  exact andThen?_ne_none (Option.some_ne_none _) (andThen?_ne_none hdefault (Option.some_ne_none _))

/-! ## Definite and regular columns -/

/-- A column that has nothing which differs from itself: its type is equal to itself, and its
default, where it is a number, is one. -/
structure Column.IsDefinite (c : Column) : Prop where
  type : c.type.same? c.type = some true
  number : ∀ d, c.default = some (.decimal d) → d.isNan = false

namespace Column.IsDefinite

variable {a : Column}

theorem isNan_of_number? (h : a.IsDefinite) {value : Literal} (hvalue : a.default = some value)
    {d : Decimal} (hd : value.number? = some d) : d.isNan = false := by
  cases value with
  | text s => cases hd
  | bytes s => cases hd
  | int n =>
    cases hd
    rfl
  | decimal x =>
    cases hd
    exact h.number d hvalue

/-- A definite column is equal to itself. -/
theorem same?_self (h : a.IsDefinite) : a.same? a = some true := by
  refine same?_iff.mpr ⟨rfl, h.type, ?_⟩
  cases hdefault : a.default with
  | none => rfl
  | some value =>
    cases hnumber : value.number? with
    | some d =>
      have hd := h.isNan_of_number? hdefault hnumber
      exact (Literal.same?_of_number hnumber).mpr
        ⟨d, hnumber, Decimal.sameValue?_eq_true_iff.mpr ⟨hd, hd, rfl⟩⟩
    | none => cases value <;> simp_all [sameDefault?, Literal.same?, Literal.number?]

end Column.IsDefinite

/-- A column of the vocabulary whose default, where it is a number, is one. -/
structure Column.IsRegular (c : Column) : Prop where
  supported : ∃ t, c.type = .base t
  number : ∀ d, c.default = some (.decimal d) → d.isNan = false

/-- A table of regular columns with distinct names. -/
structure Table.IsRegular (t : Table) : Prop where
  nodup : (t.columns.map Column.name).Nodup
  regular : ∀ c ∈ t.columns, c.IsRegular

namespace Column.IsRegular

variable {a b : Column}

theorem isDefinite (h : a.IsRegular) : a.IsDefinite := by
  obtain ⟨t, ht⟩ := h.supported
  exact ⟨by rw [ht]; simp [ColumnType.same?], h.number⟩

/-- The default of a regular column is no signalling number. -/
theorem hasQuietDefault (h : a.IsRegular) : a.HasQuietDefault :=
  fun x hx => Decimal.isSignalling_of_number (h.number x hx)

/-- The comparison of the defaults of regular columns has an answer. -/
theorem sameDefault?_ne_none (ha : a.IsRegular) (hb : b.IsRegular) :
    sameDefault? a.default b.default ≠ none :=
  ha.hasQuietDefault.sameDefault?_ne_none hb.hasQuietDefault

/-- The comparison of regular columns has an answer. -/
theorem same?_ne_none (ha : a.IsRegular) (hb : b.IsRegular) : a.same? b ≠ none :=
  same?_ne_none_of_base hb.supported (ha.sameDefault?_ne_none hb)

end Column.IsRegular

/-- Lists of columns are equal column by column. -/
theorem sameColumns?_iff {as bs : List Column} :
    sameColumns? as bs = some true ↔ List.Forall₂ (fun a b => a.same? b = some true) as bs := by
  induction as generalizing bs with
  | nil => cases bs <;> simp [sameColumns?]
  | cons a as ih =>
    cases bs with
    | nil => simp [sameColumns?]
    | cons b bs => rw [sameColumns?, andThen?_eq_true_iff, ih, List.forall₂_cons]

/-! ## Tables and schemas -/

theorem Table.same?_iff {a b : Table} :
    a.same? b = some true ↔ a.name = b.name ∧
      List.Forall₂ (fun c d => c.same? d = some true) a.columns b.columns ∧
      a.primaryKey = b.primaryKey ∧ a.group = b.group := by
  simp only [same?, andThen?_eq_true_iff, sameColumns?_iff, Option.some.injEq, beq_iff_eq,
    Bool.and_eq_true]

/-- Two equal entities are equal tables, or they are one entity that is no table. -/
theorem Entity.same?_cases {a b : Entity} (h : a.same? b = some true) :
    (∃ s t, a = .table s ∧ b = .table t ∧ s.same? t = some true) ∨
      (a = b ∧ ∀ t, a ≠ .table t) := by
  cases a with
  | table s =>
    cases b with
    | table t => exact Or.inl ⟨s, t, rfl, rfl, h⟩
    | _ => simp [same?] at h
  | index i =>
    cases b with
    | index j =>
      simp only [same?, Option.some.injEq, beq_iff_eq] at h
      exact Or.inr ⟨by rw [h], nofun⟩
    | _ => simp [same?] at h
  | foreignKey k =>
    cases b with
    | foreignKey l =>
      simp only [same?, Option.some.injEq, beq_iff_eq] at h
      exact Or.inr ⟨by rw [h], nofun⟩
    | _ => simp [same?] at h
  | seed r =>
    cases b with
    | seed r' =>
      simp only [same?, Option.some.injEq, beq_iff_eq] at h
      exact Or.inr ⟨by rw [h], nofun⟩
    | _ => simp [same?] at h

namespace Schema

variable {s t : Schema}

theorem sameEntities?_iff {as bs : List Entity} (hlength : as.length = bs.length) :
    sameEntities? as bs = some true ↔
      List.Forall₂ (fun a b => a.same? b = some true) as bs := by
  induction as generalizing bs with
  | nil =>
    rw [List.eq_nil_of_length_eq_zero hlength.symm]
    simp [sameEntities?]
  | cons a as ih =>
    cases bs with
    | nil => cases hlength
    | cons b bs =>
      rw [sameEntities?, andThen?_eq_true_iff, ih (Nat.succ.inj hlength), List.forall₂_cons]

/-- Schemas are equal entity by entity. -/
theorem same?_iff :
    s.same? t = some true ↔
      List.Forall₂ (fun a b => a.same? b = some true) s.entities t.entities := by
  unfold same?
  constructor
  · intro h
    split_ifs at h with hsize
    · exact (sameEntities?_iff hsize).mp h
    · cases h
  · intro h
    rw [if_pos (show s.size = t.size from h.length_eq)]
    exact (sameEntities?_iff h.length_eq).mpr h

/-- What is collected from the entities that are no tables is the same for equal entities. -/
theorem foldl_of_same {α : Type} {f : α → Entity → α} (hf : ∀ a u, f a (.table u) = a)
    {as bs : List Entity} (h : List.Forall₂ (fun a b => a.same? b = some true) as bs) (a : α) :
    as.foldl f a = bs.foldl f a := by
  induction h generalizing a with
  | nil => rfl
  | cons hfirst _ ih =>
    rw [List.foldl_cons, List.foldl_cons]
    rcases Entity.same?_cases hfirst with ⟨u, v, rfl, rfl, -⟩ | ⟨rfl, -⟩
    · rw [hf, hf]
      exact ih a
    · exact ih _

/-- Equal schemas have the same indexes. -/
theorem indexesOf_of_same (h : s.same? t = some true) (table : String) :
    s.indexesOf table = t.indexesOf table := by
  unfold indexesOf
  exact foldl_of_same (fun _ _ => rfl) (same?_iff.mp h) _

/-- Equal schemas have the same foreign keys. -/
theorem foreignKeysOf_of_same (h : s.same? t = some true) (table : String) :
    s.foreignKeysOf table = t.foreignKeysOf table := by
  unfold foreignKeysOf
  exact foldl_of_same (fun _ _ => rfl) (same?_iff.mp h) _

theorem table?_cons_table {u : Table} {rest : List Entity} {name : String} :
    table? ⟨.table u :: rest⟩ name = if u.name = name then some u else table? ⟨rest⟩ name := by
  by_cases hname : u.name = name
  · simp [table?, hname]
  · simp [table?, hname]

theorem table?_cons_other {e : Entity} (he : ∀ u, e ≠ .table u) {rest : List Entity}
    {name : String} : table? ⟨e :: rest⟩ name = table? ⟨rest⟩ name := by
  cases e with
  | table u => exact absurd rfl (he u)
  | index _ => rfl
  | foreignKey _ => rfl
  | seed _ => rfl

/-- Under a name equal schemas have equal tables, or neither of them has one. -/
theorem table?_of_same (h : s.same? t = some true) (name : String) :
    Option.Rel (fun u v => u.same? v = some true) (s.table? name) (t.table? name) := by
  have hlists : ∀ as bs, List.Forall₂ (fun a b => Entity.same? a b = some true) as bs →
      Option.Rel (fun u v => u.same? v = some true) (table? ⟨as⟩ name) (table? ⟨bs⟩ name) := by
    intro as bs hall
    induction hall with
    | nil => exact .none
    | cons hfirst _ ih =>
      rcases Entity.same?_cases hfirst with ⟨u, v, rfl, rfl, hsame⟩ | ⟨rfl, hother⟩
      · rw [table?_cons_table, table?_cons_table, ← (Table.same?_iff.mp hsame).1]
        split_ifs
        · exact .some hsame
        · exact ih
      · rw [table?_cons_other hother, table?_cons_other hother]
        exact ih
  exact hlists s.entities t.entities (same?_iff.mp h)

end Schema

end SchemaPlan
