import Mathlib.Tactic.SplitIfs
import SchemaPlan.Doc.Basic

/-!
# Equality of documents

Equality of values is not equality of trees: numbers of one value are equal however they are
written, mappings are equal in any order, and what is not a number is equal to nothing, not even to
itself.  It is transitive all the same.

* `Decimal.sameValue?_eq_true_iff` reduces equality of numbers to equality of reduced numbers.
* `Doc.same?_trans` says that two values that are equal to a third one are equal.
* `Doc.isExactly` compares trees part by part, which makes their identity decidable.
-/
namespace SchemaPlan

namespace Decimal

variable {a b c : Decimal}

theorem isSignalling_of_number (h : a.isNan = false) : a.isSignalling = false := by
  cases a with
  | finite => rfl
  | infinite => rfl
  | nan => cases h

/-- The comparison of two numbers that are numbers has an answer. -/
theorem sameValue?_of_numbers (ha : a.isNan = false) (hb : b.isNan = false) :
    a.sameValue? b = some (a.reduce == b.reduce) := by
  simp [sameValue?, ha, hb, isSignalling_of_number ha, isSignalling_of_number hb]

/-- Two numbers have the same value when they are numbers and reduce to the same one. -/
theorem sameValue?_eq_true_iff :
    a.sameValue? b = some true ↔ a.isNan = false ∧ b.isNan = false ∧ a.reduce = b.reduce := by
  constructor
  · intro h
    unfold sameValue? at h
    split_ifs at h with hs hn
    · cases h
    · rw [Bool.not_eq_true, Bool.or_eq_false_iff] at hn
      rw [Option.some.injEq, beq_iff_eq] at h
      exact ⟨hn.1, hn.2, h⟩
  · rintro ⟨ha, hb, h⟩
    rw [sameValue?_of_numbers ha hb, h, beq_self_eq_true]

theorem sameValue?_trans (hab : a.sameValue? b = some true) (hbc : b.sameValue? c = some true) :
    a.sameValue? c = some true := by
  rw [sameValue?_eq_true_iff] at hab hbc ⊢
  exact ⟨hab.1, hbc.2.1, hab.2.2.trans hbc.2.2⟩

end Decimal

namespace Doc

variable {a b c : Doc}

/-- A number is equal to a number of its value and to nothing else. -/
theorem same?_of_number {d : Decimal} (h : a.number? = some d) :
    a.same? b = sameNumber? d b := by
  cases a <;> simp [number?] at h <;> simp [same?, h]

theorem sameNumber?_eq_true_iff {d : Decimal} :
    sameNumber? d b = some true ↔ ∃ e, b.number? = some e ∧ d.sameValue? e = some true := by
  unfold sameNumber?
  cases b.number? with
  | none => simp
  | some e => simp

theorem sameNumber?_trans {d : Decimal} (hb : sameNumber? d b = some true)
    (hbc : b.same? c = some true) : sameNumber? d c = some true := by
  obtain ⟨e, he, hde⟩ := sameNumber?_eq_true_iff.mp hb
  rw [same?_of_number he, sameNumber?_eq_true_iff] at hbc
  obtain ⟨f, hf, hef⟩ := hbc
  exact sameNumber?_eq_true_iff.mpr ⟨f, hf, Decimal.sameValue?_trans hde hef⟩

theorem same?_list_iff {xs : List Doc} :
    (list xs).same? b = some true ↔
      ∃ ys, b = list ys ∧ xs.length = ys.length ∧ sameItems? xs ys = some true := by
  cases b with
  | list ys =>
    simp only [same?]
    split_ifs with hlength
    · simp [hlength]
    · simp [hlength]
  | _ => simp [same?]

theorem same?_mapping_iff {fs : Fields} :
    (mapping fs).same? b = some true ↔
      ∃ gs, b = mapping gs ∧ fs.length = gs.length ∧ sameFields? fs gs = some true := by
  cases b with
  | mapping gs =>
    simp only [same?]
    split_ifs with hlength
    · simp [hlength]
    · simp [hlength]
  | _ => simp [same?]

theorem sameItems?_cons_iff {x y : Doc} {xs ys : List Doc} :
    sameItems? (x :: xs) (y :: ys) = some true ↔
      x.same? y = some true ∧ sameItems? xs ys = some true := by
  rw [sameItems?]
  cases x.same? y with
  | none => simp
  | some answer => cases answer <;> simp

theorem sameFields?_cons_iff {key : Option String} {x : Doc} {fs gs : Fields} :
    sameFields? ((key, x) :: fs) gs = some true ↔
      ∃ y, gs.lookup key = some y ∧ x.same? y = some true ∧ sameFields? fs gs = some true := by
  rw [sameFields?]
  cases gs.lookup key with
  | none => simp
  | some y =>
    cases hxy : x.same? y with
    | none => simp [hxy]
    | some answer => cases answer <;> simp [hxy]

/-- What is found under a key has an equal one under that key. -/
theorem lookup_of_sameFields? {fs gs : Fields} (h : sameFields? fs gs = some true)
    {key : Option String} {x : Doc} (hx : fs.lookup key = some x) :
    ∃ y, gs.lookup key = some y ∧ x.same? y = some true := by
  induction fs with
  | nil => cases hx
  | cons first rest ih =>
    obtain ⟨k, v⟩ := first
    obtain ⟨y, hy, hsame, hrest⟩ := sameFields?_cons_iff.mp h
    rw [List.lookup_cons] at hx
    cases hk : key == k with
    | true =>
      rw [hk] at hx
      cases hx
      rw [beq_iff_eq.mp hk]
      exact ⟨y, hy, hsame⟩
    | false =>
      rw [hk] at hx
      exact ih hrest hx

mutual

/-- **Equality of documents is transitive.** -/
theorem same?_trans : ∀ {a b c : Doc}, a.same? b = some true → b.same? c = some true →
    a.same? c = some true
  | list xs, b, c, hab, hbc => by
    obtain ⟨ys, rfl, hlength, hitems⟩ := same?_list_iff.mp hab
    obtain ⟨zs, rfl, hlength', hitems'⟩ := same?_list_iff.mp hbc
    exact same?_list_iff.mpr ⟨zs, rfl, hlength.trans hlength',
      sameItems?_trans hlength hlength' hitems hitems'⟩
  | mapping fs, b, c, hab, hbc => by
    obtain ⟨gs, rfl, hlength, hfields⟩ := same?_mapping_iff.mp hab
    obtain ⟨hs, rfl, hlength', hfields'⟩ := same?_mapping_iff.mp hbc
    exact same?_mapping_iff.mpr ⟨hs, rfl, hlength.trans hlength',
      sameFields?_trans hfields hfields'⟩
  -- Scalars that are no numbers are equal only when they are the same.
  | null, b, c, hab, hbc => by
    cases b <;> simp_all [same?, isNull]
  | text s, b, c, hab, hbc => by
    cases b <;> simp_all [same?]
  | bytes s, b, c, hab, hbc => by
    cases b <;> simp_all [same?]
  | bool v, b, c, hab, hbc => sameNumber?_trans hab hbc
  | int n, b, c, hab, hbc => sameNumber?_trans hab hbc
  | float x, b, c, hab, hbc => sameNumber?_trans hab hbc
  | decimal d, b, c, hab, hbc => sameNumber?_trans hab hbc

theorem sameItems?_trans : ∀ {xs ys zs : List Doc}, xs.length = ys.length →
    ys.length = zs.length → sameItems? xs ys = some true → sameItems? ys zs = some true →
    sameItems? xs zs = some true
  | [], _, _, _, _, _, _ => by simp [sameItems?]
  | x :: xs, y :: ys, z :: zs, hlength, hlength', hxy, hyz => by
    obtain ⟨hfirst, hrest⟩ := sameItems?_cons_iff.mp hxy
    obtain ⟨hfirst', hrest'⟩ := sameItems?_cons_iff.mp hyz
    exact sameItems?_cons_iff.mpr ⟨same?_trans hfirst hfirst',
      sameItems?_trans (by simpa using hlength) (by simpa using hlength') hrest hrest'⟩

theorem sameFields?_trans : ∀ {fs gs hs : Fields}, sameFields? fs gs = some true →
    sameFields? gs hs = some true → sameFields? fs hs = some true
  | [], _, _, _, _ => by simp [sameFields?]
  -- The value under a key of the second mapping is the one that its own lookup finds.
  | (key, x) :: rest, gs, hs, hfg, hgh => by
    obtain ⟨y, hy, hxy, hrest⟩ := sameFields?_cons_iff.mp hfg
    obtain ⟨z, hz, hyz⟩ := lookup_of_sameFields? hgh hy
    exact sameFields?_cons_iff.mpr ⟨z, hz, same?_trans hxy hyz, sameFields?_trans hrest hgh⟩

end

/-! ## Identity -/

mutual

/-- Whether two values are one and the same, part by part. -/
def isExactly : Doc → Doc → Bool
  | list xs, list ys => areExactly xs ys
  | mapping fs, mapping gs => fieldsAreExactly fs gs
  | null, null => true
  | bool a, bool b => a == b
  | int m, int n => m == n
  | float x, float y => x == y
  | decimal d, decimal e => d == e
  | text s, text t => s == t
  | bytes s, bytes t => s == t
  | _, _ => false

/-- Whether two lists are one and the same. -/
def areExactly : List Doc → List Doc → Bool
  | [], [] => true
  | x :: xs, y :: ys => isExactly x y && areExactly xs ys
  | _, _ => false

/-- Whether two mappings are one and the same, in the order of their entries. -/
def fieldsAreExactly : Fields → Fields → Bool
  | [], [] => true
  | (k, x) :: fs, (l, y) :: gs => k == l && isExactly x y && fieldsAreExactly fs gs
  | _, _ => false

end

mutual

theorem isExactly_iff : ∀ {a b : Doc}, a.isExactly b = true ↔ a = b
  | list xs, b => by
    cases b with
    | list ys => rw [isExactly, areExactly_iff, list.injEq]
    | _ => exact iff_of_false nofun nofun
  | mapping fs, b => by
    cases b with
    | mapping gs => rw [isExactly, fieldsAreExactly_iff, mapping.injEq]
    | _ => exact iff_of_false nofun nofun
  | null, b | bool _, b | int _, b | float _, b | decimal _, b | text _, b | bytes _, b => by
    cases b <;> simp [isExactly]

theorem areExactly_iff : ∀ {xs ys : List Doc}, areExactly xs ys = true ↔ xs = ys
  | [], ys => by cases ys <;> simp [areExactly]
  | x :: xs, ys => by
    cases ys with
    | nil => exact iff_of_false nofun nofun
    | cons y ys => rw [areExactly, Bool.and_eq_true, isExactly_iff, areExactly_iff, List.cons.injEq]

theorem fieldsAreExactly_iff : ∀ {fs gs : Fields}, fieldsAreExactly fs gs = true ↔ fs = gs
  | [], gs => by cases gs <;> simp [fieldsAreExactly]
  | (k, x) :: fs, gs => by
    cases gs with
    | nil => exact iff_of_false nofun nofun
    | cons g gs =>
      rw [fieldsAreExactly, Bool.and_eq_true, Bool.and_eq_true, beq_iff_eq, isExactly_iff,
        fieldsAreExactly_iff, List.cons.injEq, Prod.mk.injEq]

end

instance : DecidableEq Doc := fun _ _ => decidable_of_iff _ isExactly_iff

end Doc

end SchemaPlan
