import SchemaPlan.Proofs.Statement.Subject

/-!
# The order of statements

Two kinds of statements are in order when none of the first kind comes after one of the second
kind.  Order is a matter of the parts that a list of statements is put together from.

* `precedes_append_iff` takes the order of two parts apart, `Precedes.flatMap` puts that of parts
  for distinct names together.
* `precedes_thoseAbout_iff` says that for statements about one table its own statements are enough.
* `onceBefore_iff` reads two properties, that a statement comes at most once and that it comes
  before others, as an order of its own.
-/
namespace SchemaPlan

/-- No statement of the first kind comes after one of the second kind. -/
def Precedes (p q : Statement → Prop) (statements : List Statement) : Prop :=
  statements.Pairwise fun s t => q s → ¬ p t

variable {p q : Statement → Prop} {xs ys : List Statement}

theorem Precedes.nil : Precedes p q [] :=
  List.Pairwise.nil

/-- All statements differ from one exactly when it is not there. -/
theorem each_ne_iff {s : Statement} : Each (fun x => x ≠ s) xs ↔ s ∉ xs :=
  List.forall_mem_ne'

theorem Precedes.singleton (s : Statement) : Precedes p q [s] :=
  List.pairwise_singleton _ s

theorem Precedes.ite {b : Prop} [Decidable b] (hx : Precedes p q xs) (hy : Precedes p q ys) :
    Precedes p q (if b then xs else ys) := by
  split_ifs
  · exact hx
  · exact hy

/-- Two parts are in order to each other when the first one has none of the second kind, or the
second one none of the first kind. -/
theorem forall_precedes_iff :
    (∀ s ∈ xs, ∀ t ∈ ys, q s → ¬ p t) ↔ Each (fun s => ¬ q s) xs ∨ Each (fun s => ¬ p s) ys := by
  constructor
  · intro hcross
    by_cases hfirst : Each (fun s => ¬ q s) xs
    · exact Or.inl hfirst
    · -- Some statement of the second kind is in the first part, and all of the second part follow it.
      right
      unfold Each at hfirst
      push Not at hfirst
      obtain ⟨s, hs, hq⟩ := hfirst
      exact fun t ht => hcross s hs t ht hq
  · rintro (hfirst | hsecond) s hs t ht hq
    · exact absurd hq (hfirst s hs)
    · exact hsecond t ht

/-- Parts are in order when each one is and the first one has none of the second kind, or the second
one none of the first kind. -/
theorem precedes_append_iff :
    Precedes p q (xs ++ ys) ↔ Precedes p q xs ∧ Precedes p q ys ∧
      (Each (fun s => ¬ q s) xs ∨ Each (fun s => ¬ p s) ys) := by
  unfold Precedes
  rw [List.pairwise_append, forall_precedes_iff]

/-- Any number of parts are in order when each one is and any two of them are. -/
theorem precedes_flatMap_iff {β : Type} {things : List β} {f : β → List Statement} :
    Precedes p q (things.flatMap f) ↔ (∀ b ∈ things, Precedes p q (f b)) ∧
      things.Pairwise fun b c => Each (fun s => ¬ q s) (f b) ∨ Each (fun s => ¬ p s) (f c) := by
  unfold Precedes
  rw [List.pairwise_flatMap]
  refine and_congr_right fun _ => List.Pairwise.iff fun b c => ?_
  exact forall_precedes_iff

/-- Without statements of the first kind there is nothing to order. -/
theorem Precedes.of_not_first (h : Each (fun s => ¬ p s) xs) : Precedes p q xs :=
  List.pairwise_of_forall_mem_list fun _ _ t ht _ => h t ht

/-- Without statements of the second kind there is nothing to order. -/
theorem Precedes.of_not_second (h : Each (fun s => ¬ q s) xs) : Precedes p q xs :=
  List.pairwise_of_forall_mem_list fun s hs _ _ hq => absurd hq (h s hs)

/-- Parts without the second kind in front, and parts without the first kind behind, do not matter. -/
theorem precedes_middle_iff {zs : List Statement} (hxs : Each (fun s => ¬ q s) xs)
    (hzs : Each (fun s => ¬ p s) zs) : Precedes p q (xs ++ ys ++ zs) ↔ Precedes p q ys := by
  rw [precedes_append_iff, precedes_append_iff]
  constructor
  · rintro ⟨⟨-, hys, -⟩, -⟩
    exact hys
  · intro hys
    exact ⟨⟨.of_not_second hxs, hys, Or.inl hxs⟩, .of_not_first hzs, Or.inr hzs⟩

/-- Of parts for things with distinct names only the part of one name has statements of these kinds,
so they are in order when they are so in that part. -/
theorem Precedes.flatMap {β : Type} {things : List β} (nameOf : β → String) {name : String}
    (hnodup : (things.map nameOf).Nodup) {f : β → List Statement}
    (hown : ∀ b ∈ things, nameOf b = name → Precedes p q (f b))
    (hothers : ∀ b ∈ things, nameOf b ≠ name → Each (fun s => ¬ p s ∧ ¬ q s) (f b)) :
    Precedes p q (things.flatMap f) := by
  induction things with
  | nil => exact .nil
  | cons b rest ih =>
    rw [List.map_cons, List.nodup_cons] at hnodup
    obtain ⟨hb, hrest⟩ := hnodup
    have hlater := ih hrest (fun c hc => hown c (List.mem_cons_of_mem b hc))
      fun c hc => hothers c (List.mem_cons_of_mem b hc)
    rw [List.flatMap_cons, precedes_append_iff]
    by_cases hname : nameOf b = name
    · refine ⟨hown b List.mem_cons_self hname, hlater, Or.inr (.flatMap fun c hc => ?_)⟩
      -- No later thing has the name again.
      have hother : nameOf c ≠ name := fun h =>
        hb (hname.trans h.symm ▸ List.mem_map_of_mem hc)
      exact (hothers c (List.mem_cons_of_mem b hc) hother).mono fun _ hs => hs.1
    · have hnone := hothers b List.mem_cons_self hname
      exact ⟨.of_not_first (hnone.mono fun _ hs => hs.1), hlater,
        Or.inl (hnone.mono fun _ hs => hs.2)⟩

/-- For kinds of statements about one table its own statements are enough. -/
theorem precedes_thoseAbout_iff (table : String) (hp : ∀ s, p s → s.subject = table)
    (hq : ∀ s, q s → s.subject = table) (statements : List Statement) :
    Precedes p q (thoseAbout table statements) ↔ Precedes p q statements := by
  unfold Precedes thoseAbout
  rw [List.pairwise_filter]
  refine List.Pairwise.iff fun s t => ?_
  simp only [beq_iff_eq]
  constructor
  · intro h hs ht
    exact h (hq s hs) (hp t ht) hs ht
  · intro h _ _
    exact h

/-! ## Once -/

/-- At most one statement is of this kind. -/
def AtMostOnce (p : Statement → Prop) (statements : List Statement) : Prop :=
  Precedes p p statements

/-- The statement does not come after itself or after one of the kind. -/
abbrev OnceBefore (x : Statement) (q : Statement → Prop) (statements : List Statement) : Prop :=
  Precedes (· = x) (fun s => s = x ∨ q s) statements

/-- Neither the statement nor one of the kind is there. -/
abbrev Without (x : Statement) (q : Statement → Prop) (statements : List Statement) : Prop :=
  Each (fun s => ¬ (s = x ∨ q s)) statements

section Once

variable {x : Statement}

theorem onceBefore_iff : OnceBefore x q xs ↔ AtMostOnce (· = x) xs ∧ Precedes (· = x) q xs := by
  unfold AtMostOnce Precedes
  rw [← List.pairwise_and_iff]
  refine List.Pairwise.iff fun s t => ?_
  constructor
  · intro h
    exact ⟨fun hx => h (Or.inl hx), fun hq => h (Or.inr hq)⟩
  · rintro ⟨hx, hq⟩ (h | h)
    · exact hx h
    · exact hq h

theorem Without.of_not_mem (hx : x ∉ xs) (hq : Each (fun s => ¬ q s) xs) : Without x q xs :=
  fun s hs => not_or_intro (each_ne_iff.mpr hx s hs) (hq s hs)

theorem OnceBefore.of_not_mem (h : x ∉ xs) : OnceBefore x q xs :=
  Precedes.of_not_first (each_ne_iff.mpr h)

/-- A later part has the statement only where an earlier one has nothing to do with it. -/
theorem OnceBefore.append (hxs : OnceBefore x q xs) (hys : OnceBefore x q ys)
    (h : x ∈ ys → Without x q xs) : OnceBefore x q (xs ++ ys) := by
  refine precedes_append_iff.mpr ⟨hxs, hys, ?_⟩
  by_cases hx : x ∈ ys
  · exact Or.inl (h hx)
  · exact Or.inr (each_ne_iff.mpr hx)

/-- Of parts for things with distinct names only the part of one name counts. -/
theorem OnceBefore.flatMap {β : Type} {things : List β} (nameOf : β → String) (name : String)
    (hnodup : (things.map nameOf).Nodup) {f : β → List Statement}
    (hown : ∀ b ∈ things, OnceBefore x q (f b))
    (hothers : ∀ b ∈ things, nameOf b ≠ name → Without x q (f b)) :
    OnceBefore x q (things.flatMap f) := by
  have hneither : ∀ b ∈ things, nameOf b ≠ name →
      Each (fun s => ¬ s = x ∧ ¬ (s = x ∨ q s)) (f b) := fun b hb hne =>
    (hothers b hb hne).mono fun _ hs => ⟨(not_or.mp hs).1, hs⟩
  exact Precedes.flatMap nameOf hnodup (fun b hb _ => hown b hb) hneither

end Once

end SchemaPlan
