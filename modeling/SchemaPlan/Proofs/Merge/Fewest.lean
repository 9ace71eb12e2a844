import Mathlib.Order.Bounds.Defs
import SchemaPlan.Proofs.Merge.Groups

/-!
# Merging goes as far as it can

Merging ends a group only where the next statement does not fit, and a group that goes on beyond
that place would be too long in any cut.  So every group of the merge reaches at least as far as the
same group of any other cut, and no cut has fewer groups.  The statements that are merged do not fit
behind each other either, which leaves nothing to merge a second time.

* `IsCut.length_le` compares a cut that is made as late as possible with any other one.
* `length_merge_isLeast` says that merging gives the fewest statements.
* `merge_merge` says that merging twice is merging once.
-/
namespace SchemaPlan

variable {bound : Int}

/-! ## Parts of groups -/

/-- Neighbours of a list are joined to a text that is not longer. -/
theorem length_intercalate_le (separator : String) {xs ys : List String} (h : xs <:+: ys) :
    (separator.intercalate xs).length ≤ (separator.intercalate ys).length := by
  obtain ⟨front, back, rfl⟩ := h
  by_cases hxs : xs = []
  · rw [hxs, String.intercalate_nil]
    exact Nat.zero_le _
  have hfront :
      (separator.intercalate xs).length ≤ (separator.intercalate (front ++ xs)).length := by
    by_cases hne : front = []
    · rw [hne, List.nil_append]
    · rw [String.intercalate_append_of_ne_nil hne hxs, String.length_append]
      exact Nat.le_add_left _ _
  refine hfront.trans ?_
  by_cases hne : back = []
  · rw [hne, List.append_nil]
  · have hsome : front ++ xs ≠ [] := List.append_ne_nil_of_right_ne_nil front hxs
    rw [String.intercalate_append_of_ne_nil hsome hne, String.append_assoc, String.length_append]
    exact Nat.le_add_right _ _

namespace MergeGroup

theorem length_text_behind_le (head : String) {rests others : List String} (h : rests <:+: others) :
    (behind head rests).text.length ≤ (behind head others).text.length := by
  rw [behind, behind, String.length_append, String.length_append]
  exact Nat.add_le_add_left (length_intercalate_le ", " h) _

end MergeGroup

namespace IsMerged

variable {g : MergeGroup} {head : String}

/-- A group whose members share a head is what stands behind that head. -/
theorem exists_eq_behind (h : IsMerged bound g) (hhead : IsHead head) (hall : g.HasHead head) :
    ∃ rests, g = .behind head rests := by
  cases h with
  | single s =>
    obtain ⟨rest, rfl⟩ := hall s List.mem_cons_self
    exact ⟨[rest], (MergeGroup.behind_singleton head rest).symm⟩
  | @several other rests hother hmany hfits =>
    obtain ⟨first, hfirst⟩ := List.exists_mem_of_length_pos (Nat.lt_of_lt_of_le Nat.two_pos hmany)
    obtain ⟨rest, heq⟩ := hall (other ++ first) (List.mem_map_of_mem hfirst)
    obtain ⟨rfl, -⟩ := hother.unique hhead heq
    exact ⟨rests, rfl⟩

/-- The head of the text is the head of the members. -/
theorem hasHead_of_text (h : IsMerged bound g) (hhead : IsHead head) {rest : String}
    (htext : g.text = head ++ rest) : g.HasHead head := by
  cases h with
  | single s =>
    intro s' hs'
    exact ⟨rest, (List.mem_singleton.mp hs').trans htext⟩
  | several hother hmany hfits =>
    obtain ⟨rfl, -⟩ := hother.unique hhead htext
    intro s hs
    obtain ⟨behind, -, rfl⟩ := List.mem_map.mp hs
    exact ⟨behind, rfl⟩

end IsMerged

/-! ## No cut has fewer groups -/

/-- A group does not end where another one that may stand goes on. -/
theorem IsMerged.not_parted {o g next : MergeGroup} {s : String} (ho : IsMerged bound o)
    (hg : IsMerged bound g) (hpart : g.members ++ [s] <:+: o.members)
    (hnext : next.members.head? = some s) : ¬ Parted bound g next := by
  intro hparted
  cases ho with
  | single t =>
    have hlength := hpart.length_le
    have hpos := List.length_pos_iff.mpr hg.members_ne_nil
    rw [List.length_append, List.length_singleton, List.length_singleton] at hlength
    omega
  | @several head rests hhead hmany hfits =>
    obtain ⟨front, back, hmembers⟩ := hpart
    -- What stands behind the head falls into the same parts as the members.
    obtain ⟨start, ends, rfl, hstart, -⟩ := List.map_eq_append_iff.mp hmembers.symm
    obtain ⟨before, here, rfl, -, hhere⟩ := List.map_eq_append_iff.mp hstart
    obtain ⟨those, last, rfl, hthose, hlast⟩ := List.map_eq_append_iff.mp hhere
    obtain ⟨rest, rfl, rfl⟩ := List.map_eq_singleton_iff.mp hlast
    have hall : g.HasHead head := by
      intro t ht
      rw [← hthose] at ht
      obtain ⟨behind, -, rfl⟩ := List.mem_map.mp ht
      exact ⟨behind, rfl⟩
    obtain ⟨own, rfl⟩ := hg.exists_eq_behind hhead hall
    obtain rfl : those = own :=
      List.map_injective_iff.mpr (fun _ _ h => (String.append_right_inj head).mp h) hthose
    have hne : those ≠ [] := fun hnil => hg.members_ne_nil (by rw [hnil]; rfl)
    have hlong := hparted head rest hhead hall hnext
    rw [String.append_assoc, ← MergeGroup.text_behind_append hne] at hlong
    have hshort := MergeGroup.length_text_behind_le head
      (List.infix_append before (those ++ [rest]) ends)
    omega

namespace IsCut

variable {g : MergeGroup} {groups others : List MergeGroup} {statements texts front : List String}

theorem tail (h : IsCut bound (g :: groups) statements texts) :
    IsCut bound groups (groups.flatMap (·.members)) (groups.map (·.text)) where
  members := rfl
  texts := rfl
  merged := (List.forall_mem_cons.mp h.merged).2
  parted := h.parted.tail

theorem eq_nil (h : IsCut bound groups [] texts) : groups = [] := by
  rw [List.eq_nil_iff_forall_not_mem]
  intro g hg
  exact (h.merged g hg).members_ne_nil (List.flatMap_eq_nil_iff.mp h.members g hg)

/-- **No cut has fewer groups** than one that is made as late as possible, not even a cut of more
statements that end with the same ones. -/
theorem length_le (h : IsCut bound groups statements texts)
    (hmerged : ∀ o ∈ others, IsMerged bound o) (hmembers : others.flatMap (·.members) = front ++ statements) :
    groups.length ≤ others.length := by
  induction others generalizing groups statements texts front with
  | nil =>
    obtain ⟨-, rfl⟩ := List.append_eq_nil_iff.mp hmembers.symm
    rw [h.eq_nil]
  | cons o others ih =>
    obtain ⟨ho, hothers⟩ := List.forall_mem_cons.mp hmerged
    rw [List.flatMap_cons] at hmembers
    rcases List.append_eq_append_iff.mp hmembers with ⟨more, -, hrest⟩ | ⟨part, hpart, hrest⟩
    · -- The first group of the other cut ends before these statements begin.
      exact (ih h hothers hrest).trans (Nat.le_succ _)
    · cases groups with
      | nil => exact Nat.zero_le _
      | cons g groups =>
        have htail := h.tail
        refine Nat.succ_le_succ ?_
        have hsplit : g.members ++ groups.flatMap (·.members) =
            part ++ others.flatMap (·.members) := by
          rw [← hrest, ← h.members, List.flatMap_cons]
        rcases List.append_eq_append_iff.mp hsplit with ⟨later, hlater, hbehind⟩ | ⟨left, -, hleft⟩
        · cases later with
          | nil =>
            have hsame : others.flatMap (·.members) = [] ++ groups.flatMap (·.members) :=
              hbehind.symm
            exact ih htail hothers hsame
          | cons s later =>
            -- The other group would go on beyond the end of this one.
            cases groups with
            | nil => cases hbehind
            | cons next groups =>
              have hnext : next.members.head? = some s := by
                rw [htail.head?_members rfl, hbehind]
                rfl
              have hinfix : g.members ++ [s] <:+: o.members :=
                ⟨front, later, by rw [hpart, hlater]; simp⟩
              have hparted := (List.isChain_cons_cons.mp h.parted).1
              exact absurd hparted
                (ho.not_parted (h.merged g List.mem_cons_self) hinfix hnext)
        · exact ih htail hothers hleft

end IsCut

/-- **Merging gives the fewest statements.**  The statements can be cut into as many groups of
neighbours that may stand together as there are merged statements, and not into fewer. -/
theorem length_merge_isLeast (bound : Int) (statements : List String) :
    IsLeast {n | ∃ groups : List MergeGroup, groups.flatMap (·.members) = statements ∧
      (∀ g ∈ groups, IsMerged bound g) ∧ groups.length = n} (merge bound statements).length := by
  obtain ⟨groups, hcut⟩ := (mergeFrom_isCut bound statements).1
  have hlength : groups.length = (merge bound statements).length := by
    rw [merge, ← hcut.texts, List.length_map]
  refine ⟨⟨groups, hcut.members, hcut.merged, hlength⟩, ?_⟩
  rintro n ⟨others, hmembers, hmerged, rfl⟩
  have hsame : others.flatMap (·.members) = [] ++ statements := hmembers
  rw [← hlength]
  exact hcut.length_le hmerged hsame

/-! ## Nothing is left to merge -/

/-- The second statement does not fit behind the first one. -/
def Apart (bound : Int) (first second : String) : Prop :=
  ∀ head behind rest, IsHead head → first = head ++ behind → second = head ++ rest →
    bound < ((first ++ ", " ++ rest).length : Int)

/-- The texts of two groups that are parted do not fit behind each other. -/
theorem IsMerged.apart {g next : MergeGroup} (hg : IsMerged bound g) (hnext : IsMerged bound next)
    (h : Parted bound g next) : Apart bound g.text next.text := by
  intro head behind rest hhead hfirst hsecond
  obtain ⟨rests, rfl⟩ :=
    hnext.exists_eq_behind hhead (hnext.hasHead_of_text hhead hsecond)
  obtain rfl := (String.append_right_inj head).mp hsecond
  cases rests with
  | nil => exact absurd rfl hnext.members_ne_nil
  | cons first rests =>
    have hlong := h head first hhead (hg.hasHead_of_text hhead hfirst) rfl
    have hshort := length_intercalate_le ", "
      (List.prefix_append [first] rests).isInfix
    rw [String.intercalate_singleton, List.singleton_append] at hshort
    rw [String.length_append] at hlong ⊢
    omega

theorem IsCut.isChain_apart {groups : List MergeGroup} {statements texts : List String}
    (h : IsCut bound groups statements texts) : texts.IsChain (Apart bound) := by
  rw [← h.texts, List.isChain_map]
  refine List.IsChain.imp_of_mem_imp (fun g next hg hnext hparted => ?_) h.parted
  exact (h.merged g hg).apart (h.merged next hnext) hparted

/-- Statements that do not fit behind each other stay as they are. -/
theorem mergeFrom_of_isChain {texts : List String} (h : texts.IsChain (Apart bound)) :
    mergeFrom bound none texts = texts := by
  induction texts with
  | nil => rfl
  | cons t texts ih =>
    have hrest := ih h.tail
    rcases mergeFrom_none_cons bound t texts with ⟨head, behind, hhead, ht, hmerge⟩ | ⟨-, hmerge⟩
    · rw [hmerge]
      cases texts with
      | nil => rfl
      | cons next texts =>
        rcases mergeFrom_some_cons hhead t next texts with ⟨rest, hnext, hfits, -⟩ | ⟨-, hstops⟩
        · -- The next statement fits, which it does not.
          have hlong := (List.isChain_cons_cons.mp h).1 head behind rest hhead ht hnext
          rw [String.append_assoc] at hlong
          exact absurd hfits (Int.not_le.mpr hlong)
        · rw [hstops, hrest]
    · rw [hmerge, hrest]

/-- **Merging twice is merging once.** -/
theorem merge_merge (bound : Int) (statements : List String) :
    merge bound (merge bound statements) = merge bound statements := by
  obtain ⟨groups, hcut⟩ := (mergeFrom_isCut bound statements).1
  exact mergeFrom_of_isChain hcut.isChain_apart

end SchemaPlan
