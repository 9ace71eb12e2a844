import Mathlib.Data.List.Forall2
import Mathlib.Tactic.SplitIfs
import SchemaPlan.Document.Read
import SchemaPlan.Document.Write
import SchemaPlan.Proofs.Noted

/-!
# Mappings with fields that may be left out

The mappings that are written are lists of fields in a fixed order, some of which are left out.  A
field is found again under its key, and no reader meets a key that it does not know.

* `Fields.lookup_optional_cons` finds a field in such a list.
* `Document.fieldsOf_optional` says that a mapping with allowed keys is accepted.
* `mapM_map_eq_ok_iff` reads the items of a list that were written one by one; `mapM_eq_error_iff`
  finds the first item that cannot be read.
-/
namespace SchemaPlan

/-- The fields of a list that are there. -/
def Fields.optional (entries : List (String × Option Doc)) : Fields :=
  entries.filterMap fun entry => entry.2.map fun value => (some entry.1, value)

namespace Fields

variable {key other : String} {value : Option Doc} {entries : List (String × Option Doc)}

@[simp] theorem optional_nil : optional [] = [] := rfl

/-- The first field is found under its key, and other keys are looked up behind it. -/
@[simp] theorem lookup_optional_cons :
    (optional ((key, value) :: entries)).lookup (some other) =
      if other = key then value.or ((optional entries).lookup (some other))
      else (optional entries).lookup (some other) := by
  cases value with
  | none => simp [optional]
  | some v =>
    have hcons : optional ((key, some v) :: entries) = (some key, v) :: optional entries := rfl
    by_cases h : other = key
    · rw [hcons, h, List.lookup_cons_self, if_pos rfl]
      rfl
    · have hne : (some other == some key) = false := by simpa using h
      rw [hcons, List.lookup_cons, hne, if_neg h]

theorem optional_cons_some (key : String) (v : Doc) (entries : List (String × Option Doc)) :
    optional ((key, some v) :: entries) = Document.field key v ++ optional entries := rfl

theorem optional_cons_none (key : String) (entries : List (String × Option Doc)) :
    optional ((key, none) :: entries) = optional entries := rfl

theorem optional_cons_if (b : Bool) (key : String) (v : Doc) (entries : List (String × Option Doc)) :
    optional ((key, if b then some v else none) :: entries) =
      Document.fieldIf b key v ++ optional entries := by
  cases b <;> rfl

theorem mem_optional {k : Option String} {v : Doc} (h : (k, v) ∈ optional entries) :
    ∃ key ∈ entries.map Prod.fst, k = some key := by
  obtain ⟨entry, hentry, hv⟩ := List.mem_filterMap.mp h
  obtain ⟨w, -, hw⟩ := Option.map_eq_some_iff.mp hv
  cases hw
  exact ⟨entry.1, List.mem_map_of_mem hentry, rfl⟩

end Fields

namespace Document

/-- A mapping with allowed keys is accepted. -/
theorem fieldsOf_optional {entries : List (String × Option Doc)} {allowed : List String}
    (h : ∀ key ∈ entries.map Prod.fst, key ∈ allowed) (place : String) :
    fieldsOf (.mapping (Fields.optional entries)) allowed place = .ok (Fields.optional entries) := by
  have hunknown : (Fields.optional entries).filter
      (fun field => !allowed.any fun a => field.1 == some a) = [] := by
    rw [List.filter_eq_nil_iff]
    rintro ⟨k, v⟩ hmem
    obtain ⟨key, hkey, rfl⟩ := Fields.mem_optional hmem
    simpa using h key hkey
  have hempty : ((Fields.optional entries).filter
      (fun field => !allowed.any fun a => field.1 == some a)).isEmpty = true := by
    rw [hunknown]
    rfl
  exact if_pos hempty

/-- No key of a mapping of fields is null. -/
theorem columnEntries_optional (entries : List (String × Option Doc)) :
    columnEntries (.mapping (Fields.optional entries)) = .mapping (Fields.optional entries) := by
  have hkeys : ((Fields.optional entries).any fun field => field.1.isNone) = false := by
    rw [List.any_eq_false]
    rintro ⟨k, v⟩ hmem
    obtain ⟨key, -, rfl⟩ := Fields.mem_optional hmem
    simp
  exact if_neg (by rw [hkeys]; exact Bool.false_ne_true)

end Document

/-! ## Lists -/

/-- Items that were written one by one are read as a list exactly when each of them is read. -/
theorem mapM_map_eq_ok_iff {ε α β γ : Type} {f : β → Except ε γ} {g : α → β} {h : α → γ}
    {P : α → Prop} {xs : List α} (hall : ∀ x ∈ xs, ∀ y, f (g x) = .ok y ↔ P x ∧ y = h x)
    {ys : List γ} : (xs.map g).mapM f = .ok ys ↔ (∀ x ∈ xs, P x) ∧ ys = xs.map h := by
  induction xs generalizing ys with
  | nil =>
    rw [List.map_nil, List.map_nil, List.mapM_nil]
    exact ⟨fun hys => ⟨List.forall_mem_nil P, (Except.ok.inj hys).symm⟩, fun hys => by rw [hys.2]; rfl⟩
  | cons x rest ih =>
    obtain ⟨hx, hrest⟩ := List.forall_mem_cons.mp hall
    rw [List.map_cons, List.mapM_cons, bind_eq_ok_iff, List.forall_mem_cons]
    simp only [bind_pure_eq_ok_iff, hx, ih hrest]
    constructor
    · rintro ⟨_, ⟨hP, rfl⟩, _, ⟨hPrest, rfl⟩, rfl⟩
      exact ⟨⟨hP, hPrest⟩, rfl⟩
    · rintro ⟨⟨hP, hPrest⟩, rfl⟩
      exact ⟨_, ⟨hP, rfl⟩, _, ⟨hPrest, rfl⟩, rfl⟩

/-- What is read is read under no condition. -/
theorem eq_ok_iff_of_eq_ok {ε α : Type} {x : Except ε α} {a : α} (h : x = .ok a) (b : α) :
    x = .ok b ↔ True ∧ b = a := by
  rw [h, true_and, Except.ok.injEq, eq_comm]

/-- Items that are read one by one are read as a list. -/
theorem mapM_map_eq_ok {ε α β γ : Type} {f : β → Except ε γ} {g : α → β} {h : α → γ} {xs : List α}
    (hall : ∀ x ∈ xs, f (g x) = .ok (h x)) : (xs.map g).mapM f = .ok (xs.map h) :=
  (mapM_map_eq_ok_iff fun x hx => eq_ok_iff_of_eq_ok (hall x hx)).mpr ⟨fun _ _ => trivial, rfl⟩

/-- A list is read when each of its items is. -/
theorem mapM_eq_ok_iff {ε α β : Type} {f : α → Except ε β} {xs : List α} {ys : List β} :
    xs.mapM f = .ok ys ↔ List.Forall₂ (fun x y => f x = .ok y) xs ys := by
  induction xs generalizing ys with
  | nil =>
    rw [List.forall₂_nil_left_iff]
    constructor
    · intro h
      cases h
      rfl
    · rintro rfl
      rfl
  | cons x rest ih =>
    rw [List.mapM_cons, bind_eq_ok_iff, List.forall₂_cons_left_iff]
    simp only [bind_pure_eq_ok_iff, ih]
    constructor
    · rintro ⟨y, hy, ys, hys, rfl⟩
      exact ⟨y, ys, hy, hys, rfl⟩
    · rintro ⟨y, ys, hy, hys, rfl⟩
      exact ⟨y, hy, ys, hys, rfl⟩

/-- A list is not read when its first item is not, or when the items behind it are not. -/
theorem mapM_cons_eq_error_iff {ε α β : Type} {f : α → Except ε β} {x : α} {xs : List α} {p : ε} :
    (x :: xs).mapM f = .error p ↔ f x = .error p ∨ (∃ b, f x = .ok b) ∧ xs.mapM f = .error p := by
  have hrest (b : β) : (xs.mapM f >>= fun bs => pure (b :: bs)) = .error p ↔
      xs.mapM f = .error p := by
    rw [bind_eq_error_iff, or_iff_left]
    rintro ⟨bs, -, h⟩
    cases h
  rw [List.mapM_cons, bind_eq_error_iff]
  simp only [hrest, exists_and_right]

/-- A list is not read because of the first item that is not. -/
theorem mapM_eq_error_iff {ε α β : Type} {f : α → Except ε β} {xs : List α} {p : ε} :
    xs.mapM f = .error p ↔ ∃ before x after, xs = before ++ x :: after ∧
      (∀ y ∈ before, ∃ b, f y = .ok b) ∧ f x = .error p := by
  constructor
  · intro h
    induction xs with
    | nil => cases h
    | cons x rest ih =>
      rcases mapM_cons_eq_error_iff.mp h with hx | ⟨hx, hrest⟩
      · exact ⟨[], x, rest, rfl, fun y hy => absurd hy List.not_mem_nil, hx⟩
      · obtain ⟨before, y, after, rfl, hbefore, hy⟩ := ih hrest
        exact ⟨x :: before, y, after, rfl, List.forall_mem_cons.mpr ⟨hx, hbefore⟩, hy⟩
  · rintro ⟨before, x, after, rfl, hbefore, hx⟩
    induction before with
    | nil => exact mapM_cons_eq_error_iff.mpr (.inl hx)
    | cons y rest ih =>
      obtain ⟨hy, hrest⟩ := List.forall_mem_cons.mp hbefore
      exact mapM_cons_eq_error_iff.mpr (.inr ⟨hy, ih hrest⟩)

/-- What is read one by one from a list has a property if each item gives it. -/
theorem forall_of_mapM {ε α β : Type} {f : α → Except ε β} {P : β → Prop} {xs : List α}
    {ys : List β} (h : xs.mapM f = .ok ys) (hP : ∀ x ∈ xs, ∀ y, f x = .ok y → P y) :
    ∀ y ∈ ys, P y := by
  have hall := mapM_eq_ok_iff.mp h
  clear h
  induction hall with
  | nil => exact fun y hy => absurd hy List.not_mem_nil
  | cons hxy _ ih =>
    obtain ⟨hx, hrest⟩ := List.forall_mem_cons.mp hP
    exact List.forall_mem_cons.mpr ⟨hx _ hxy, ih hrest⟩

end SchemaPlan
