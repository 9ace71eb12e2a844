import Mathlib.Tactic.Basic
import SchemaPlan.Noted

/-!
# Computations that succeed

What it takes that a sequence of computations ends with a result.

* `bind_eq_ok_iff` takes two computations apart, `bind_pure_eq_ok_iff` one and what is made of its
  result.
* `Noted.outcome_gather_map` says that computations run for each item of a list succeed together
  exactly when each of them does, and that their lists are joined in order.
* `Noted.gather_append` and `Noted.gather_of_forall_eq_nil` leave out computations that do nothing.
-/
namespace SchemaPlan

/-- Going on with a result succeeds when both parts do. -/
theorem bind_eq_ok_iff {ε α β : Type} (x : Except ε α) (f : α → Except ε β) (b : β) :
    x >>= f = .ok b ↔ ∃ a, x = .ok a ∧ f a = .ok b := by
  cases x with
  | ok a =>
    constructor
    · intro h
      exact ⟨a, rfl, h⟩
    · rintro ⟨a', ha', h⟩
      cases ha'
      exact h
  | error p =>
    constructor
    · intro h
      cases h
    · rintro ⟨a', ha', -⟩
      cases ha'

/-- Going on with a result fails when the first part does, or the second one behind it. -/
theorem bind_eq_error_iff {ε α β : Type} (x : Except ε α) (f : α → Except ε β) (p : ε) :
    x >>= f = .error p ↔ x = .error p ∨ ∃ a, x = .ok a ∧ f a = .error p := by
  cases x with
  | ok a =>
    constructor
    · intro h
      exact .inr ⟨a, rfl, h⟩
    · rintro (h | ⟨a', ha', h⟩)
      · cases h
      · cases ha'
        exact h
  | error q =>
    constructor
    · intro h
      cases h
      exact .inl rfl
    · rintro (h | ⟨a', ha', -⟩)
      · cases h
        rfl
      · cases ha'

/-- Making something of a result succeeds when there is one. -/
theorem bind_pure_eq_ok_iff {ε α β : Type} (x : Except ε α) (f : α → β) (b : β) :
    (x >>= fun a => pure (f a)) = .ok b ↔ ∃ a, x = .ok a ∧ b = f a := by
  rw [bind_eq_ok_iff]
  constructor
  · rintro ⟨a, ha, h⟩
    cases h
    exact ⟨a, ha, rfl⟩
  · rintro ⟨a, ha, rfl⟩
    exact ⟨a, ha, rfl⟩

theorem map_eq_ok_iff {ε α β : Type} {x : Except ε α} {f : α → β} {b : β} :
    x.map f = .ok b ↔ ∃ a, x = .ok a ∧ b = f a :=
  bind_pure_eq_ok_iff x f b

/-- Saying in other words what is wrong leaves what is right. -/
theorem mapError_eq_ok_iff {ε ε' α : Type} {x : Except ε α} {f : ε → ε'} {a : α} :
    x.mapError f = .ok a ↔ x = .ok a := by
  cases x with
  | ok b =>
    constructor
    · intro h
      cases h
      rfl
    · intro h
      cases h
      rfl
  | error p =>
    constructor
    · intro h
      cases h
    · intro h
      cases h

namespace Noted

variable {α β : Type}

/-- The lists of two computations are joined when both succeed. -/
theorem outcome_join_iff (x y : Noted (List α)) (l : List α) :
    (do
      let first ← x
      let others ← y
      return first ++ others : Noted (List α)).outcome = .ok l ↔
      ∃ first others, x.outcome = .ok first ∧ y.outcome = .ok others ∧ l = first ++ others := by
  rw [outcome_bind, bind_eq_ok_iff]
  constructor
  · rintro ⟨first, hfirst, h⟩
    rw [outcome_bind, bind_eq_ok_iff] at h
    obtain ⟨others, hothers, h⟩ := h
    cases h
    exact ⟨first, others, hfirst, hothers, rfl⟩
  · rintro ⟨first, others, hfirst, hothers, rfl⟩
    refine ⟨first, hfirst, ?_⟩
    rw [outcome_bind, bind_eq_ok_iff]
    exact ⟨others, hothers, rfl⟩

/-- Going on with a result that there is, and that there is again, in a way that is the same. -/
theorem ofExcept_bind_congr {x y : Except Problem α} {f g : α → Noted β} {b : β}
    (h : (ofExcept x >>= f).outcome = .ok b) (hxy : ∀ a, x = .ok a → y = .ok a)
    (hfg : ∀ a, x = .ok a → (f a).outcome = .ok b → g a = f a) :
    ofExcept y >>= g = ofExcept x >>= f := by
  rw [outcome_bind, outcome_ofExcept, bind_eq_ok_iff] at h
  obtain ⟨a, ha, hfa⟩ := h
  rw [ha, hxy a ha]
  change pure a >>= g = pure a >>= f
  rw [pure_bind, pure_bind, hfg a ha hfa]

/-- Gathering goes through two parts in order. -/
theorem gather_append (xs ys : List (Noted (List α))) :
    gather (xs ++ ys) = (do
      let first ← gather xs
      let others ← gather ys
      return first ++ others) := by
  induction xs with
  | nil => simp [gather]
  | cons x rest ih =>
    simp only [List.cons_append, gather, ih, bind_assoc, pure_bind, List.append_assoc]

theorem outcome_gather_cons (x : Noted (List α)) (rest : List (Noted (List α))) (l : List α) :
    (gather (x :: rest)).outcome = .ok l ↔
      ∃ first others, x.outcome = .ok first ∧ (gather rest).outcome = .ok others ∧
        l = first ++ others :=
  outcome_join_iff x (gather rest) l

theorem outcome_gather_append (xs ys : List (Noted (List α))) (l : List α) :
    (gather (xs ++ ys)).outcome = .ok l ↔
      ∃ first others, (gather xs).outcome = .ok first ∧ (gather ys).outcome = .ok others ∧
        l = first ++ others := by
  rw [gather_append]
  exact outcome_join_iff (gather xs) (gather ys) l

/-- Computations that do nothing do nothing together. -/
theorem gather_of_forall_eq_nil {xs : List (Noted (List α))} (h : ∀ x ∈ xs, x = pure []) :
    gather xs = pure [] := by
  induction xs with
  | nil => rfl
  | cons x rest ih =>
    rw [gather, h x List.mem_cons_self, ih fun y hy => h y (List.mem_cons_of_mem x hy)]
    rfl

/-- Computations that cannot fail succeed together. -/
theorem outcome_gather_pure (f : β → List α) (xs : List β) :
    (gather (xs.map fun x => pure (f x))).outcome = .ok (xs.flatMap f) := by
  induction xs with
  | nil => rfl
  | cons x rest ih =>
    rw [List.map_cons, outcome_gather_cons]
    exact ⟨f x, rest.flatMap f, rfl, ih, List.flatMap_cons⟩

/-- The result of a computation, nothing where it ends with a problem. -/
def resultOrNil (x : Noted (List α)) : List α :=
  match x.outcome with
  | .ok l => l
  | .error _ => []

theorem resultOrNil_of_ok {x : Noted (List α)} {l : List α} (h : x.outcome = .ok l) :
    x.resultOrNil = l := by
  unfold resultOrNil
  rw [h]

/-- Computations run for each item succeed together exactly when each of them does. -/
theorem outcome_gather_map (f : β → Noted (List α)) (xs : List β) (l : List α) :
    (gather (xs.map f)).outcome = .ok l ↔
      (∀ x ∈ xs, (f x).outcome = .ok (f x).resultOrNil) ∧
        l = xs.flatMap fun x => (f x).resultOrNil := by
  induction xs generalizing l with
  | nil =>
    constructor
    · intro h
      cases h
      exact ⟨by simp, rfl⟩
    · rintro ⟨-, rfl⟩
      rfl
  | cons x rest ih =>
    rw [List.map_cons, outcome_gather_cons]
    constructor
    · rintro ⟨first, others, hfirst, hothers, rfl⟩
      obtain ⟨hrest, rfl⟩ := (ih others).mp hothers
    -- The list of the first computation is the result that it has.
      have hx : (f x).resultOrNil = first := resultOrNil_of_ok hfirst
      refine ⟨?_, by rw [List.flatMap_cons, hx]⟩
      intro y hy
      rcases List.mem_cons.mp hy with rfl | hy
      · rw [hx]
        exact hfirst
      · exact hrest y hy
    · rintro ⟨hall, rfl⟩
      refine ⟨(f x).resultOrNil, _, hall x List.mem_cons_self, ?_, List.flatMap_cons⟩
      exact (ih _).mpr ⟨fun y hy => hall y (List.mem_cons_of_mem x hy), rfl⟩

end Noted

end SchemaPlan
