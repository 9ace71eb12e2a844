import Mathlib.Data.List.TakeWhile
import SchemaPlan.Merge

/-!
# Heads of statements

A statement that changes a table begins with a head: two words, the name of the table up to the
next blank, and that blank.  A statement has one head at most.

* `alterHead?_eq_some_iff` says that the head that is found is the one that the statement has.
* `IsHead.unique` says that a text is in one way at most a head with something behind it.
-/
namespace SchemaPlan

open SchemaPlan.Text

/-- A head: the words at the front, a name without blanks, and a blank. -/
def IsHead (head : String) : Prop :=
  ∃ name : String, name ≠ "" ∧ (∀ c ∈ name.toList, isBlank c = false) ∧
    head = "alter table " ++ name ++ " "

/-- A head is found in front of anything. -/
theorem alterHead?_append {name : List Char} (hne : name ≠ [])
    (hname : ∀ c ∈ name, isBlank c = false) (rest : List Char) :
    alterHead? (alterWords ++ (name ++ ' ' :: rest)) = some (alterWords ++ name ++ [' ']) := by
  have hwords : alterWords.isPrefixOf (alterWords ++ (name ++ ' ' :: rest)) = true :=
    List.isPrefixOf_iff_prefix.mpr (List.prefix_append _ _)
  have htake : (name ++ ' ' :: rest).takeWhile (!isBlank ·) = name := by
    rw [List.takeWhile_append_of_pos fun c hc => by simp [hname c hc],
      List.takeWhile_cons_of_neg (by decide), List.append_nil]
  rw [alterHead?, if_pos hwords, List.drop_left]
  simp only [htake, List.drop_left]
  cases name with
  | nil => exact absurd rfl hne
  | cons c name => rfl

/-- What is found is a head in front of something. -/
theorem eq_append_of_alterHead? {s head : List Char} (h : alterHead? s = some head) :
    ∃ name rest, name ≠ [] ∧ (∀ c ∈ name, isBlank c = false) ∧
      head = alterWords ++ name ++ [' '] ∧ s = alterWords ++ (name ++ ' ' :: rest) := by
  unfold alterHead? at h
  split_ifs at h with hwords
  obtain ⟨behind, rfl⟩ := List.isPrefixOf_iff_prefix.mp hwords
  simp only [List.drop_left] at h
  have hsplit : behind.takeWhile (!isBlank ·) ++
      behind.drop (behind.takeWhile (!isBlank ·)).length = behind :=
    List.prefix_iff_eq_append.mp (List.takeWhile_prefix _)
  have hname : ∀ c ∈ behind.takeWhile (!isBlank ·), isBlank c = false := by
    intro c hc
    simpa using List.mem_takeWhile_imp hc
  generalize behind.takeWhile (!isBlank ·) = name at h hsplit hname
  -- Only a name with a blank behind it makes a head.
  split at h
  · rename_i c others rest hrest
    cases h
    rw [hrest] at hsplit
    exact ⟨c :: others, rest, List.cons_ne_nil _ _, hname, rfl, by rw [hsplit]⟩
  · cases h

theorem toList_head (name : String) :
    ("alter table " ++ name ++ " ").toList = alterWords ++ name.toList ++ [' '] := by
  rw [String.toList_append, String.toList_append]
  rfl

/-- The head of a statement is found. -/
theorem IsHead.alterHead? {head : String} (h : IsHead head) (rest : String) :
    SchemaPlan.alterHead? (head ++ rest).toList = some head.toList := by
  obtain ⟨name, hne, hname, rfl⟩ := h
  have hchars : name.toList ≠ [] := fun hnil => hne (String.toList_eq_nil_iff.mp hnil)
  rw [String.toList_append, toList_head, List.append_assoc, List.append_assoc]
  exact alterHead?_append hchars hname rest.toList

/-- The head that is found is the one that the statement begins with. -/
theorem alterHead?_eq_some_iff {s : String} {head : List Char} :
    alterHead? s.toList = some head ↔
      IsHead (String.ofList head) ∧ ∃ rest, s = String.ofList head ++ rest := by
  constructor
  · intro h
    obtain ⟨name, rest, hne, hname, rfl, hs⟩ := eq_append_of_alterHead? h
    refine ⟨⟨String.ofList name, ?_, ?_, ?_⟩, String.ofList rest, ?_⟩
    · intro hempty
      exact hne (String.ofList_eq_empty_iff.mp hempty)
    · rwa [String.toList_ofList]
    · apply String.toList_inj.mp
      rw [toList_head, String.toList_ofList, String.toList_ofList]
    · apply String.toList_inj.mp
      rw [hs, String.toList_append, String.toList_ofList, String.toList_ofList, List.append_assoc,
        List.append_assoc]
      rfl
  · rintro ⟨hhead, rest, rfl⟩
    have hfound := hhead.alterHead? rest
    rwa [String.toList_ofList] at hfound

/-- A text is in one way at most a head with something behind it. -/
theorem IsHead.unique {head other rest behind : String} (h : IsHead head) (hother : IsHead other)
    (heq : head ++ rest = other ++ behind) : head = other ∧ rest = behind := by
  have hfound := h.alterHead? rest
  rw [heq, hother.alterHead? behind, Option.some.injEq] at hfound
  have hsame : head = other := (String.toList_inj.mp hfound).symm
  subst hsame
  exact ⟨rfl, (String.append_right_inj head).mp heq⟩

/-- What a statement adds is what stands behind its head, after a comma. -/
theorem addition_append (head rest : String) :
    addition head.toList (head ++ rest) = ", " ++ rest := by
  rw [addition, String.toList_append, List.drop_left, String.ofList_toList]

end SchemaPlan
