/-!
# Maps in order of insertion

A map from names to values that remembers the order in which its names came.  Writing to a name
that is there keeps its place.

* `Ordered.put` writes, `Ordered.putNew` writes only to a new name.
* `get?_put` and `get?_putNew` say what is found afterwards; `keys_put` and `keys_putNew` say that
  at most one name is added, at the end.
-/
namespace SchemaPlan

/-- A map from names to values in order of insertion. -/
structure Ordered (α : Type) where
  entries : List (String × α)
deriving Inhabited

namespace Ordered

variable {α : Type}

/-- The map without entries. -/
def empty : Ordered α := ⟨[]⟩

/-- The names in order. -/
def keys (m : Ordered α) : List String :=
  m.entries.map Prod.fst

/-- The values in the order of their names. -/
def values (m : Ordered α) : List α :=
  m.entries.map Prod.snd

/-- The value of a name. -/
def get? (m : Ordered α) (key : String) : Option α :=
  m.entries.lookup key

/-- Whether a name is there. -/
def has (m : Ordered α) (key : String) : Bool :=
  (m.get? key).isSome

/-- The entries with the value of a name written. -/
def putEntry (key : String) (value : α) : List (String × α) → List (String × α)
  | [] => [(key, value)]
  | (k, v) :: rest => if k = key then (k, value) :: rest else (k, v) :: putEntry key value rest

/-- Writes the value of a name. -/
def put (m : Ordered α) (key : String) (value : α) : Ordered α :=
  ⟨putEntry key value m.entries⟩

/-- Writes the value of a name that is not there. -/
def putNew (m : Ordered α) (key : String) (value : α) : Ordered α :=
  if m.has key then m else m.put key value

theorem lookup_putEntry (key other : String) (value : α) (entries : List (String × α)) :
    (putEntry key value entries).lookup other =
      if other = key then some value else entries.lookup other := by
  induction entries with
  | nil =>
    by_cases h : other = key
    · simp [putEntry, h]
    · have hb : (other == key) = false := by simp [h]
      simp [putEntry, List.lookup_cons, hb, h]
  | cons entry rest ih =>
    obtain ⟨k, v⟩ := entry
    by_cases hk : k = key
    · subst hk
      by_cases ho : other = k
      · simp [putEntry, ho]
      · have hb : (other == k) = false := by simp [ho]
        simp [putEntry, List.lookup_cons, hb, ho]
    · by_cases hok : other = k
      · have ho : other ≠ key := fun e => hk (hok ▸ e)
        simp [putEntry, hk, hok]
      · have hb : (other == k) = false := by simp [hok]
        simp [putEntry, hk, List.lookup_cons, hb, ih]

@[simp] theorem get?_put (m : Ordered α) (key other : String) (value : α) :
    (m.put key value).get? other = if other = key then some value else m.get? other :=
  lookup_putEntry key other value m.entries

theorem keys_putEntry (key : String) (value : α) (entries : List (String × α)) :
    (putEntry key value entries).map Prod.fst =
      if key ∈ entries.map Prod.fst then entries.map Prod.fst
      else entries.map Prod.fst ++ [key] := by
  induction entries with
  | nil => simp [putEntry]
  | cons entry rest ih =>
    obtain ⟨k, v⟩ := entry
    by_cases hk : k = key
    · simp [putEntry, hk]
    · have hk' : ¬ key = k := fun e => hk e.symm
      simp only [putEntry, hk, if_false, List.map_cons, ih, List.mem_cons, hk', false_or]
      split <;> simp

theorem keys_put (m : Ordered α) (key : String) (value : α) :
    (m.put key value).keys = if key ∈ m.keys then m.keys else m.keys ++ [key] :=
  keys_putEntry key value m.entries

theorem isSome_lookup_iff (key : String) (entries : List (String × α)) :
    (entries.lookup key).isSome ↔ key ∈ entries.map Prod.fst := by
  induction entries with
  | nil => simp
  | cons entry rest ih =>
    obtain ⟨k, v⟩ := entry
    by_cases hk : key = k
    · simp [hk]
    · have hb : (key == k) = false := by simp [hk]
      simp [List.lookup_cons, hb, hk, ih]

theorem has_iff_mem_keys (m : Ordered α) (key : String) : m.has key ↔ key ∈ m.keys :=
  isSome_lookup_iff key m.entries

@[simp] theorem get?_putNew (m : Ordered α) (key other : String) (value : α) :
    (m.putNew key value).get? other =
      (m.get? other).or (if other = key then some value else none) := by
  unfold putNew
  by_cases hm : m.has key
  · by_cases ho : other = key
    · obtain ⟨old, h⟩ := Option.isSome_iff_exists.1 hm
      simp [ho, hm, h]
    · simp [hm, ho]
  · have hn : m.get? key = none := by simpa [has] using hm
    by_cases ho : other = key
    · simp [ho, hm, hn]
    · simp [hm, ho]

theorem keys_putNew (m : Ordered α) (key : String) (value : α) :
    (m.putNew key value).keys = if key ∈ m.keys then m.keys else m.keys ++ [key] := by
  unfold putNew
  by_cases hm : m.has key
  · simp [hm, (has_iff_mem_keys m key).1 hm]
  · simp [hm, keys_put]

end Ordered

end SchemaPlan
