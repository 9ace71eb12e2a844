import Mathlib.Data.List.Chain
import SchemaPlan.Proofs.Merge.Head

/-!
# Merging keeps every statement

Merging cuts the statements into groups of neighbours and gives one statement for each group.  A
statement alone is given as it stands; several become one behind their common head, as long as the
bound allows; and a group ends only where the next statement could not be added to it.

* `mergeFrom_none_cons` and `mergeFrom_some_cons` say what merging does with the next statement.
* `merge_isCut` says this of the whole list.
-/
namespace SchemaPlan

/-! ## Groups -/

/-- Statements in a row with the text that stands for them. -/
structure MergeGroup where
  members : List String
  text : String

namespace MergeGroup

/-- Several statements behind one head, each given by what stands behind the head. -/
def behind (head : String) (rests : List String) : MergeGroup :=
  ⟨rests.map (head ++ ·), head ++ ", ".intercalate rests⟩

/-- Every member begins with the head. -/
def HasHead (g : MergeGroup) (head : String) : Prop :=
  ∀ s ∈ g.members, ∃ rest, s = head ++ rest

theorem behind_singleton (head rest : String) :
    behind head [rest] = ⟨[head ++ rest], head ++ rest⟩ := by
  rw [behind, String.intercalate_singleton]
  rfl

/-- Another statement at the end goes behind a comma. -/
theorem text_behind_append {head : String} {rests : List String} (hne : rests ≠ [])
    (rest : String) :
    (behind head (rests ++ [rest])).text = (behind head rests).text ++ (", " ++ rest) := by
  simp only [behind]
  rw [String.intercalate_append_of_ne_nil hne (List.cons_ne_nil _ _),
    String.intercalate_singleton, String.append_assoc, String.append_assoc]

end MergeGroup

/-- A text that may stand for its group: a single statement stands for itself, and several with one
head are joined behind it if the bound allows. -/
inductive IsMerged (bound : Int) : MergeGroup → Prop
  | single (s : String) : IsMerged bound ⟨[s], s⟩
  | several {head : String} {rests : List String} (hhead : IsHead head)
      (hmany : 2 ≤ rests.length) (hfits : ((MergeGroup.behind head rests).text.length : Int) ≤ bound) :
      IsMerged bound (MergeGroup.behind head rests)

/-- The first statement of the next group, if it has the head of this group, does not fit behind
this one. -/
def Parted (bound : Int) (g next : MergeGroup) : Prop :=
  ∀ head rest, IsHead head → g.HasHead head → next.members.head? = some (head ++ rest) →
    bound < ((g.text ++ ", " ++ rest).length : Int)

/-- A cut of the statements into groups whose texts are the given ones. -/
structure IsCut (bound : Int) (groups : List MergeGroup) (statements texts : List String) :
    Prop where
  members : groups.flatMap (·.members) = statements
  texts : groups.map (·.text) = texts
  merged : ∀ g ∈ groups, IsMerged bound g
  parted : groups.IsChain (Parted bound)

variable {bound : Int}

theorem IsMerged.members_ne_nil {g : MergeGroup} (h : IsMerged bound g) : g.members ≠ [] := by
  cases h with
  | single s => exact List.cons_ne_nil s []
  | several hhead hmany hfits =>
    intro hnil
    rw [MergeGroup.behind, List.map_eq_nil_iff] at hnil
    subst hnil
    exact absurd hmany (by decide)

/-- One statement or several that fit. -/
theorem isMerged_behind {head : String} {rests : List String} (hhead : IsHead head)
    (hne : rests ≠ [])
    (hfits : 2 ≤ rests.length → ((MergeGroup.behind head rests).text.length : Int) ≤ bound) :
    IsMerged bound (MergeGroup.behind head rests) := by
  rcases rests with _ | ⟨rest, _ | ⟨next, others⟩⟩
  · exact absurd rfl hne
  · rw [MergeGroup.behind_singleton]
    exact .single _
  · have hmany : 2 ≤ (rest :: next :: others).length := Nat.le_add_left 2 _
    exact .several hhead hmany (hfits hmany)

namespace IsCut

theorem nil : IsCut bound [] [] [] :=
  ⟨rfl, rfl, fun _ h => absurd h List.not_mem_nil, .nil⟩

/-- The first group begins with the first statement. -/
theorem head?_members {g : MergeGroup} {groups : List MergeGroup} {statements texts : List String}
    (h : IsCut bound groups statements texts) (hg : g ∈ groups.head?) :
    g.members.head? = statements.head? := by
  rcases groups with _ | ⟨first, groups⟩
  · cases hg
  · obtain rfl : first = g := Option.some.inj hg
    have hne := (h.merged first List.mem_cons_self).members_ne_nil
    rw [← h.members, List.flatMap_cons, List.head?_append_of_ne_nil _ hne]

/-- A group in front of a cut, where the first statement behind it does not fit. -/
theorem cons {g : MergeGroup} {groups : List MergeGroup} {statements texts : List String}
    (h : IsCut bound groups statements texts) (hg : IsMerged bound g)
    (hparted : ∀ head rest, IsHead head → g.HasHead head →
      statements.head? = some (head ++ rest) → bound < ((g.text ++ ", " ++ rest).length : Int)) :
    IsCut bound (g :: groups) (g.members ++ statements) (g.text :: texts) where
  members := by rw [List.flatMap_cons, h.members]
  texts := by rw [List.map_cons, h.texts]
  merged := List.forall_mem_cons.mpr ⟨hg, h.merged⟩
  parted := by
    refine List.isChain_cons.mpr ⟨?_, h.parted⟩
    intro next hnext head rest hhead hall hfirst
    exact hparted head rest hhead hall (by rw [← h.head?_members hnext, hfirst])

end IsCut

/-! ## One statement -/

/-- With nothing pending, a statement that has a head becomes pending and any other is handed
out. -/
theorem mergeFrom_none_cons (bound : Int) (s : String) (statements : List String) :
    (∃ head rest, IsHead head ∧ s = head ++ rest ∧
      mergeFrom bound none (s :: statements) =
        mergeFrom bound (some ⟨head.toList, s⟩) statements) ∨
    ((∀ head rest, IsHead head → s ≠ head ++ rest) ∧
      mergeFrom bound none (s :: statements) = s :: mergeFrom bound none statements) := by
  rw [mergeFrom]
  rcases hfound : alterHead? s.toList with _ | head
  · refine .inr ⟨?_, rfl⟩
    rintro head rest hhead rfl
    rw [hhead.alterHead? rest] at hfound
    cases hfound
  · obtain ⟨hhead, rest, hs⟩ := alterHead?_eq_some_iff.mp hfound
    exact .inl ⟨_, rest, hhead, hs, by rw [String.toList_ofList]⟩

/-- With a statement pending, the next one is added to it if it has the same head and fits;
otherwise the pending one is handed out first. -/
theorem mergeFrom_some_cons {head : String} (hhead : IsHead head) (text s : String)
    (statements : List String) :
    (∃ rest, s = head ++ rest ∧ ((text ++ (", " ++ rest)).length : Int) ≤ bound ∧
      mergeFrom bound (some ⟨head.toList, text⟩) (s :: statements) =
        mergeFrom bound (some ⟨head.toList, text ++ (", " ++ rest)⟩) statements) ∨
    ((∀ rest, s = head ++ rest → bound < ((text ++ (", " ++ rest)).length : Int)) ∧
      mergeFrom bound (some ⟨head.toList, text⟩) (s :: statements) =
        text :: mergeFrom bound none (s :: statements)) := by
  by_cases hsame : ∃ rest, s = head ++ rest
  · obtain ⟨rest, rfl⟩ := hsame
    rw [mergeFrom, mergeFrom, hhead.alterHead? rest]
    simp only [true_and, addition_append, ← String.length_append]
    by_cases hfits : ((text ++ (", " ++ rest)).length : Int) ≤ bound
    · exact .inl ⟨rest, rfl, hfits, if_pos hfits⟩
    · refine .inr ⟨?_, if_neg hfits⟩
      intro other hother
      rw [← (String.append_right_inj head).mp hother]
      exact Int.not_le.mp hfits
  · refine .inr ⟨fun rest hs => absurd ⟨rest, hs⟩ hsame, ?_⟩
    rw [mergeFrom, mergeFrom]
    rcases hfound : alterHead? s.toList with _ | other
    · rfl
    · -- The statement changes some table, but not the pending one.
      have hother : other ≠ head.toList := by
        rintro rfl
        obtain ⟨-, rest, hs⟩ := alterHead?_eq_some_iff.mp hfound
        rw [String.ofList_toList] at hs
        exact hsame ⟨rest, hs⟩
      exact if_neg fun h => hother h.1

/-! ## All statements -/

/-- The pending statement becomes the text of a group that begins with the statements it was made
of. -/
theorem mergeFrom_isCut (bound : Int) (statements : List String) :
    (∃ groups, IsCut bound groups statements (mergeFrom bound none statements)) ∧
    ∀ head rests, IsHead head → rests ≠ [] →
      (2 ≤ rests.length → ((MergeGroup.behind head rests).text.length : Int) ≤ bound) →
      ∃ groups, IsCut bound groups ((MergeGroup.behind head rests).members ++ statements)
        (mergeFrom bound (some ⟨head.toList, (MergeGroup.behind head rests).text⟩) statements) := by
  induction statements with
  | nil =>
    refine ⟨⟨[], .nil⟩, ?_⟩
    intro head rests hhead hne hfits
    refine ⟨_, IsCut.nil.cons (isMerged_behind hhead hne hfits) ?_⟩
    intro other rest _ _ hnone
    cases hnone
  | cons s statements ih =>
    obtain ⟨⟨others, hothers⟩, ihPending⟩ := ih
    -- First with nothing pending, since this is what a pending statement that ends gives way to.
    have hnone : ∃ groups,
        IsCut bound groups (s :: statements) (mergeFrom bound none (s :: statements)) := by
      rcases mergeFrom_none_cons bound s statements with
        ⟨head, rest, hhead, rfl, hmerge⟩ | ⟨hno, hmerge⟩
      · have hpending := ihPending head [rest] hhead (List.cons_ne_nil _ _)
          fun hmany => absurd hmany (Nat.not_succ_le_self 1)
        rw [MergeGroup.behind_singleton] at hpending
        rw [hmerge]
        exact hpending
      · rw [hmerge]
        refine ⟨_, hothers.cons (.single s) ?_⟩
        intro head _ hhead hall _
        obtain ⟨rest, hs⟩ := hall s List.mem_cons_self
        exact absurd hs (hno head rest hhead)
    refine ⟨hnone, ?_⟩
    intro head rests hhead hne hfits
    rcases mergeFrom_some_cons hhead (MergeGroup.behind head rests).text s statements with
      ⟨rest, rfl, hgrown, hmerge⟩ | ⟨hfull, hmerge⟩
    · rw [← MergeGroup.text_behind_append hne] at hgrown hmerge
      obtain ⟨groups, hcut⟩ := ihPending head (rests ++ [rest]) hhead (by simp) fun _ => hgrown
      refine ⟨groups, ?_⟩
      rw [hmerge]
      simpa [MergeGroup.behind] using hcut
    · obtain ⟨groups, hcut⟩ := hnone
      rw [hmerge]
      refine ⟨_, hcut.cons (isMerged_behind hhead hne hfits) ?_⟩
      intro other rest hother hall hs
      -- The members have only one head.
      obtain ⟨first, hfirst⟩ := List.exists_mem_of_ne_nil rests hne
      obtain ⟨behind, heq⟩ := hall (head ++ first) (List.mem_map_of_mem hfirst)
      obtain ⟨rfl, -⟩ := hhead.unique hother heq
      rw [String.append_assoc]
      exact hfull rest (Option.some.inj hs)

/-- **Merging cuts the statements into groups of neighbours, one for each statement it gives.** A
group of one is given unchanged, a longer one is joined behind the common head within the bound,
and of two neighbours with one head the second could not have begun in the first. -/
theorem merge_isCut (bound : Int) (statements : List String) :
    ∃ groups, IsCut bound groups statements (merge bound statements) :=
  (mergeFrom_isCut bound statements).1

example :
    merge 20 ["alter table t a", "alter table t b", "alter table t c", "alter table u a"] =
      ["alter table t a, b", "alter table t c", "alter table u a"] := by
  decide

end SchemaPlan
