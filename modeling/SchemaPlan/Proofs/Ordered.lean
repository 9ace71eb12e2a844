import Mathlib.Data.List.Induction
import Mathlib.Data.List.Nodup
import SchemaPlan.Ordered

/-!
# Maps whose values know their names

The maps of a schema are written under the name that the value itself carries, one value after the
other.  Such a map is keyed: its names are distinct and every value stands under its own name.

* `Ordered.IsKeyed.put` says that writing keeps a map keyed.
* `Ordered.IsKeyed.get?_eq_some_iff` says that looking up a name finds exactly the value of that
  name.
* `Ordered.collect` writes a list of values; `Ordered.collect_of_nodup` says that values with
  distinct names are all there in order, and `Ordered.isLatest_collect` that of several values of one
  name the last one is there.
-/
namespace SchemaPlan

/-! ## First occurrences -/

section FirstOccurrences

variable {α : Type} [DecidableEq α]

/-- An item at the end of a list is a first occurrence if it is new. -/
theorem eraseDups_concat (as : List α) (a : α) :
    (as ++ [a]).eraseDups = if a ∈ as then as.eraseDups else as.eraseDups ++ [a] := by
  rw [List.eraseDups_append]
  split_ifs with h
  · simp [List.removeAll, h]
  · simp [List.removeAll, h, List.eraseDups_cons]

theorem nodup_eraseDups (as : List α) : as.eraseDups.Nodup := by
  induction as using List.reverseRecOn with
  | nil => exact List.nodup_nil
  | append_singleton as a ih =>
    rw [eraseDups_concat]
    split_ifs with h
    · exact ih
    · refine List.Nodup.append ih (List.nodup_singleton a) ?_
      rw [List.disjoint_singleton, List.mem_eraseDups]
      exact h

end FirstOccurrences

namespace Ordered

variable {α : Type} {m : Ordered α} {name : α → String}

/-- The names of a map are distinct, and each value stands under its own name. -/
structure IsKeyed (m : Ordered α) (name : α → String) : Prop where
  nodup : m.keys.Nodup
  named : ∀ entry ∈ m.entries, name entry.2 = entry.1

theorem nodup_keys_put (h : m.keys.Nodup) (key : String) (value : α) :
    (m.put key value).keys.Nodup := by
  rw [keys_put]
  split_ifs with hk
  · exact h
  · rw [List.nodup_append]
    refine ⟨h, List.nodup_singleton key, ?_⟩
    intro a ha b hb hab
    rw [List.mem_singleton] at hb
    exact hk (hb ▸ hab ▸ ha)

theorem nodup_keys_putNew (h : m.keys.Nodup) (key : String) (value : α) :
    (m.putNew key value).keys.Nodup := by
  unfold putNew
  split_ifs
  · exact h
  · exact nodup_keys_put h key value

/-- Writing adds at most the entry that is written. -/
theorem mem_putEntry {key : String} {value : α} {entries : List (String × α)}
    {entry : String × α} (h : entry ∈ putEntry key value entries) :
    entry = (key, value) ∨ entry ∈ entries := by
  induction entries with
  | nil =>
    rw [putEntry, List.mem_singleton] at h
    exact Or.inl h
  | cons first rest ih =>
    obtain ⟨k, v⟩ := first
    rw [putEntry] at h
    split_ifs at h with hk
    · rcases List.mem_cons.mp h with rfl | hrest
      · exact Or.inl (by rw [hk])
      · exact Or.inr (List.mem_cons_of_mem _ hrest)
    · rcases List.mem_cons.mp h with rfl | hrest
      · exact Or.inr List.mem_cons_self
      · rcases ih hrest with heq | hmem
        · exact Or.inl heq
        · exact Or.inr (List.mem_cons_of_mem _ hmem)

theorem mem_values_put {key : String} {value a : α} (h : a ∈ (m.put key value).values) :
    a = value ∨ a ∈ m.values := by
  obtain ⟨entry, hentry, rfl⟩ := List.mem_map.mp h
  rcases mem_putEntry hentry with rfl | hmem
  · exact Or.inl rfl
  · exact Or.inr (List.mem_map_of_mem hmem)

/-- In a list of entries with distinct names the first entry of a name is the only one. -/
theorem lookup_eq_some_iff {entries : List (String × α)} (h : (entries.map Prod.fst).Nodup)
    (key : String) (a : α) : entries.lookup key = some a ↔ (key, a) ∈ entries := by
  induction entries with
  | nil => simp
  | cons first rest ih =>
    obtain ⟨k, v⟩ := first
    rw [List.map_cons, List.nodup_cons] at h
    by_cases hk : key = k
    · subst hk
      have hrest : (key, a) ∉ rest := fun hmem => h.1 (List.mem_map.mpr ⟨(key, a), hmem, rfl⟩)
      simp [hrest, eq_comm]
    · have hb : (key == k) = false := by simp [hk]
      simp [List.lookup_cons, hb, hk, ih h.2]

theorem get?_eq_some_iff_mem (h : m.keys.Nodup) (key : String) (a : α) :
    m.get? key = some a ↔ (key, a) ∈ m.entries :=
  lookup_eq_some_iff h key a

theorem has_iff_get?_eq_some (m : Ordered α) (key : String) :
    m.has key ↔ ∃ a, m.get? key = some a :=
  Option.isSome_iff_exists

namespace IsKeyed

theorem empty : (Ordered.empty : Ordered α).IsKeyed name :=
  ⟨List.nodup_nil, by intro entry h; cases h⟩

/-- Writing a value under its own name keeps a map keyed. -/
theorem put (h : m.IsKeyed name) (a : α) : (m.put (name a) a).IsKeyed name := by
  refine ⟨nodup_keys_put h.nodup (name a) a, ?_⟩
  intro entry hentry
  rcases mem_putEntry hentry with rfl | hmem
  · rfl
  · exact h.named entry hmem

/-- The names of the values are the names of the map. -/
theorem map_values (h : m.IsKeyed name) : m.values.map name = m.keys := by
  unfold values keys
  rw [List.map_map]
  exact List.map_congr_left h.named

theorem nodup_names (h : m.IsKeyed name) : (m.values.map name).Nodup := by
  rw [h.map_values]
  exact h.nodup

/-- What is found under a name is the value of that name. -/
theorem get?_eq_some_iff (h : m.IsKeyed name) (key : String) (a : α) :
    m.get? key = some a ↔ a ∈ m.values ∧ name a = key := by
  rw [get?_eq_some_iff_mem h.nodup]
  constructor
  · intro hmem
    exact ⟨List.mem_map.mpr ⟨(key, a), hmem, rfl⟩, h.named (key, a) hmem⟩
  · rintro ⟨hmem, rfl⟩
    obtain ⟨entry, hentry, rfl⟩ := List.mem_map.mp hmem
    have hname := h.named entry hentry
    rw [hname]
    exact hentry

theorem get?_name (h : m.IsKeyed name) {a : α} (ha : a ∈ m.values) : m.get? (name a) = some a :=
  (h.get?_eq_some_iff (name a) a).mpr ⟨ha, rfl⟩

end IsKeyed

/-! ## Maps collected from lists -/

/-- The map that has the values of a list under their own names; of several values of one name the
last one counts, in the place of the first. -/
def collect (name : α → String) (as : List α) : Ordered α :=
  as.foldl (fun m a => m.put (name a) a) .empty

theorem isKeyed_collect (as : List α) : (collect name as).IsKeyed name :=
  List.foldlRecOn (motive := fun m : Ordered α => m.IsKeyed name) as _ .empty
    fun _ hm a _ => hm.put a

/-- The values of the map are values of the list. -/
theorem mem_of_mem_collect {as : List α} {a : α} (h : a ∈ (collect name as).values) : a ∈ as := by
  have hall : ∀ b ∈ (collect name as).values, b ∈ as := by
    refine List.foldlRecOn (motive := fun m : Ordered α => ∀ b ∈ m.values, b ∈ as) as _
      (by intro b hb; cases hb) ?_
    intro m hm c hc b hb
    rcases mem_values_put hb with rfl | hmem
    · exact hc
    · exact hm b hmem
  exact hall a h

/-- A map of the last value of each name, in order of the first occurrences of the names. -/
structure IsLatest (m : Ordered α) (name : α → String) (as : List α) : Prop where
  keys : m.keys = (as.map name).eraseDups
  get? : ∀ key, m.get? key = (as.filter fun a => name a == key).getLast?

theorem isLatest_collect (as : List α) : (collect name as).IsLatest name as := by
  induction as using List.reverseRecOn with
  | nil => exact ⟨rfl, fun _ => rfl⟩
  | append_singleton as a ih =>
    have hcollect : collect name (as ++ [a]) = (collect name as).put (name a) a :=
      List.foldl_concat _ _ _ _
    constructor
    · rw [hcollect, keys_put, ih.keys, List.map_append, List.map_singleton, eraseDups_concat]
      simp only [List.mem_eraseDups]
    · intro key
      rw [hcollect, get?_put, List.filter_append, List.getLast?_append, ih.get?]
      by_cases h : key = name a
      · simp [h]
      · have h' : (name a == key) = false := by simp [Ne.symm h]
        simp [h, h']

/-- Values that are written only under new names leave their names in order of first occurrence. -/
theorem keys_foldl_putNew (as : List α) :
    (as.foldl (fun m a => m.putNew (name a) a) empty).keys = (as.map name).eraseDups := by
  induction as using List.reverseRecOn with
  | nil => rfl
  | append_singleton as a ih =>
    rw [List.foldl_concat, keys_putNew, ih, List.map_append, List.map_singleton, eraseDups_concat]
    simp only [List.mem_eraseDups]

theorem putEntry_of_not_mem {key : String} {entries : List (String × α)}
    (h : key ∉ entries.map Prod.fst) (value : α) :
    putEntry key value entries = entries ++ [(key, value)] := by
  induction entries with
  | nil => rfl
  | cons first rest ih =>
    rw [List.map_cons, List.mem_cons, not_or] at h
    rw [putEntry, if_neg fun heq => h.1 heq.symm, ih h.2, List.cons_append]

/-- Values with distinct new names are written one after the other, however a name is written that
is there already. -/
theorem foldl_of_nodup {write : Ordered α → α → Ordered α}
    (hwrite : ∀ m a, name a ∉ m.keys → write m a = m.put (name a) a) {as : List α}
    (h : (m.keys ++ as.map name).Nodup) :
    as.foldl write m = ⟨m.entries ++ as.map fun a => (name a, a)⟩ := by
  induction as generalizing m with
  | nil => simp
  | cons a rest ih =>
    have hnew : name a ∉ m.keys := fun hmem =>
      (List.nodup_append.mp h).2.2 (name a) hmem (name a) List.mem_cons_self rfl
    have hput : m.put (name a) a = ⟨m.entries ++ [(name a, a)]⟩ := by
      rw [put, putEntry_of_not_mem hnew]
    have hkeys : (m.put (name a) a).keys = m.keys ++ [name a] := by
      rw [keys_put, if_neg hnew]
    rw [List.foldl_cons, hwrite m a hnew, ih (by rw [hkeys]; simpa using h), hput]
    simp

theorem collect_of_nodup {as : List α} (h : (as.map name).Nodup) :
    collect name as = ⟨as.map fun a => (name a, a)⟩ :=
  foldl_of_nodup (m := empty) (fun _ _ _ => rfl) h

/-- Of values that are written only under new names, those whose names are kept leave the kept names
in their order. -/
theorem keys_foldl_putNew_filter (p : String → Bool) {as : List α} {m kept : Ordered α}
    (h : kept.keys = m.keys.filter p) :
    ((as.filter fun a => p (name a)).foldl (fun m a => m.putNew (name a) a) kept).keys =
      (as.foldl (fun m a => m.putNew (name a) a) m).keys.filter p := by
  induction as generalizing m kept with
  | nil => exact h
  | cons a rest ih =>
    cases hp : p (name a) with
    | true =>
      rw [List.filter_cons, if_pos hp]
      refine ih ?_
      have hmem : name a ∈ kept.keys ↔ name a ∈ m.keys := by simp [h, hp]
      rw [keys_putNew, keys_putNew]
      simp only [hmem]
      split_ifs <;> simp [h, hp]
    | false =>
      rw [List.filter_cons, if_neg (by simp [hp])]
      refine ih ?_
      rw [keys_putNew, h]
      split_ifs <;> simp [hp]

/-- A keyed map is collected from its own values. -/
theorem IsKeyed.collect_values (h : m.IsKeyed name) : collect name m.values = m := by
  have hentries : m.values.map (fun a => (name a, a)) = m.entries := by
    rw [values, List.map_map]
    refine (List.map_congr_left fun entry hentry => ?_).trans (List.map_id m.entries)
    rw [Function.comp_apply, h.named entry hentry, id]
  rw [collect_of_nodup h.nodup_names, hentries]

end Ordered

end SchemaPlan
