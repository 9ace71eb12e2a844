import SchemaPlan.Proofs.Schema.Parts
import SchemaPlan.Proofs.Statement.Order

/-!
# The creation of a schema, kind by kind

The creation of a schema goes through its entities three times: for the tables, for the foreign
keys and for the seed rows.  When each index belongs to a table, it adds nothing of its own, so the
creation consists of what the tables, the foreign keys and the seed rows contribute.

* `Schema.creation_eq` writes the creation of such a schema kind by kind; `Schema.creation_iff` says
  when it succeeds and what it consists of.
* `Schema.creation_ordered` says that foreign keys are added when all tables and views are there.
-/
namespace SchemaPlan

/-- The statement creates a table or a view. -/
def Statement.Creates : Statement → Prop
  | createTable _ _ _ _ => True
  | createView _ _ => True
  | _ => False

/-- The statement adds a foreign key. -/
def Statement.AddsForeignKey : Statement → Prop
  | alter _ (.addForeignKey _) => True
  | _ => False

theorem Statement.Creates.kind {s : Statement} (h : s.Creates) : s.kind = .table ∨ s.kind = .view := by
  cases s <;> first | exact Or.inl rfl | exact Or.inr rfl | cases h

theorem Statement.AddsForeignKey.kind {s : Statement} (h : s.AddsForeignKey) :
    s.kind = .foreignKey := by
  cases s with
  | alter table change => cases change <;> first | rfl | cases h
  | _ => cases h

/-- Statements that work neither on tables nor on views create none. -/
theorem Each.not_creates {l : List Statement}
    (h : Each (fun s => s.kind ≠ .table ∧ s.kind ≠ .view) l) : Each (fun s => ¬ s.Creates) l :=
  h.mono fun _ hs hcreates => hcreates.kind.elim hs.1 hs.2

theorem Each.not_addsForeignKey {l : List Statement} (h : Each (fun s => s.kind ≠ .foreignKey) l) :
    Each (fun s => ¬ s.AddsForeignKey) l :=
  h.mono fun _ hs hadds => hs hadds.kind

/-- Where all entities but those of one kind do nothing, the things of that kind do it all. -/
theorem Noted.gather_filterMap {α β : Type} (kind? : Entity → Option α) (entity : α → Entity)
    (hentity : ∀ e a, kind? e = some a → e = entity a) {f : Entity → Noted (List β)}
    {l : List Entity} (hother : ∀ e ∈ l, kind? e = none → f e = pure []) :
    gather (l.map f) = gather ((l.filterMap kind?).map fun a => f (entity a)) := by
  induction l with
  | nil => rfl
  | cons e rest ih =>
    have hrest := ih fun x hx => hother x (List.mem_cons_of_mem e hx)
    cases hkind : kind? e with
    | none =>
      rw [List.map_cons, gather, hother e List.mem_cons_self hkind, hrest,
        List.filterMap_cons_none hkind]
      simp
    | some a =>
      rw [List.map_cons, gather, hrest, List.filterMap_cons_some hkind, List.map_cons, gather,
        ← hentity e a hkind]

namespace Schema

variable {s u : Schema} {d : Deployment} {l : List Statement}

/-! ## Contributions -/

/-- The statements for a table with its indexes. -/
def tablePart (s : Schema) (d : Deployment) (t : Table) : List Statement :=
  (s.tableStatements d (.table t)).resultOrNil

/-- The statements for a foreign key. -/
def keyPart (s : Schema) (d : Deployment) (k : ForeignKey) : List Statement :=
  if (s.mappedDatabase d.mapping k.table).isNone then [.alter k.table (.addForeignKey k)] else []

/-- The statements for a seed row. -/
def seedPart (s : Schema) (d : Deployment) (r : SeedRow) : List Statement :=
  (s.seedStatements d (.seed r)).resultOrNil

/-- A foreign key can always be written. -/
theorem keyStatements_eq (k : ForeignKey) :
    s.keyStatements d (.foreignKey k) = pure (s.keyPart d k) := by
  rw [keyStatements, keyPart]
  split_ifs <;> rfl

/-- What a seed row contributes depends on where its table lives. -/
theorem seedStatements_congr {r : SeedRow} (h : s.table? r.table = u.table? r.table) :
    s.seedStatements d (.seed r) = u.seedStatements d (.seed r) := by
  rw [seedStatements, seedStatements, mappedDatabase, mappedDatabase, h]

/-- What a table contributes depends on its indexes. -/
theorem tableStatements_congr {t : Table} (h : s.indexesOf t.name = u.indexesOf t.name) :
    s.tableStatements d (.table t) = u.tableStatements d (.table t) := by
  rw [tableStatements, tableStatements, h]

/-- An entity that is no table contributes nothing to the tables when indexes have their tables. -/
theorem tableStatements_of_not_table (hs : s.HasTablesOfIndexes) {e : Entity} (he : e ∈ s.entities)
    (hkind : e.table? = none) : s.tableStatements d e = pure [] := by
  cases e with
  | table t => cases hkind
  | index i =>
    rw [tableStatements, if_neg]
    rw [Option.isNone_iff_eq_none, ← Option.not_isSome_iff_eq_none]
    exact not_not_intro (hs i (s.mem_declaredIndexes.mpr he))
  | foreignKey k => rfl
  | seed r => rfl

/-! ## The creation -/

/-- The creation of a schema in which each index belongs to a table, kind by kind. -/
theorem creation_eq (hs : s.HasTablesOfIndexes) :
    s.creation d = Noted.gather (s.declaredTables.map (fun t => s.tableStatements d (.table t)) ++
      s.declaredKeys.map (fun k => pure (s.keyPart d k)) ++
      s.declaredSeeds.map fun r => s.seedStatements d (.seed r)) := by
  have htables := Noted.gather_filterMap Entity.table? .table
    (f := s.tableStatements d) (l := s.entities) (by rintro (_ | _ | _ | _) _ ⟨⟩; rfl)
    fun e he hkind => tableStatements_of_not_table hs he hkind
  have hkeys := Noted.gather_filterMap Entity.foreignKey? .foreignKey
    (f := s.keyStatements d) (l := s.entities) (by rintro (_ | _ | _ | _) _ ⟨⟩; rfl)
    (by rintro (_ | _ | _ | _) _ ⟨⟩ <;> rfl)
  have hseeds := Noted.gather_filterMap Entity.seed? .seed
    (f := s.seedStatements d) (l := s.entities) (by rintro (_ | _ | _ | _) _ ⟨⟩; rfl)
    (by rintro (_ | _ | _ | _) _ ⟨⟩ <;> rfl)
  rw [creation, Noted.gather_append, Noted.gather_append, htables, hkeys, hseeds,
    Noted.gather_append, Noted.gather_append]
  simp only [keyStatements_eq]
  rfl

/-- The creation of a schema in which everything belongs to a table succeeds when all tables and seed
rows can be written. -/
theorem creation_iff (hs : s.IsSelfContained) :
    (s.creation d).outcome = .ok l ↔
      (∀ t ∈ s.declaredTables, (s.tableStatements d (.table t)).outcome = .ok (s.tablePart d t)) ∧
      (∀ r ∈ s.declaredSeeds, (s.seedStatements d (.seed r)).outcome = .ok (s.seedPart d r)) ∧
      l = s.declaredTables.flatMap (s.tablePart d) ++ s.declaredKeys.flatMap (s.keyPart d) ++
        s.declaredSeeds.flatMap (s.seedPart d) := by
  rw [creation_eq hs.hasTablesOfIndexes]
  simp only [Noted.outcome_gather_append, Noted.outcome_gather_pure, Noted.outcome_gather_map]
  constructor
  · rintro ⟨_, _, ⟨_, _, ⟨htables, rfl⟩, hkeys, rfl⟩, ⟨hseeds, rfl⟩, rfl⟩
    cases hkeys
    exact ⟨htables, hseeds, rfl⟩
  · rintro ⟨htables, hseeds, rfl⟩
    exact ⟨_, _, ⟨_, _, ⟨htables, rfl⟩, rfl, rfl⟩, ⟨hseeds, rfl⟩, rfl⟩

/-- **Foreign keys are added** when all tables and views are there. -/
theorem creation_ordered (h : (s.creation d).outcome = .ok l) :
    Precedes Statement.Creates Statement.AddsForeignKey l := by
  obtain ⟨htables, hkeys, hseeds, rfl⟩ := creation_eq_ok_iff.mp h
  have htablePart : Each (fun x => ¬ x.AddsForeignKey)
      (s.entities.flatMap fun e => (s.tableStatements d e).resultOrNil) :=
    .flatMap fun e he =>
      ((plain_tableStatements (htables e he)).mono fun _ hx => hx.2).not_addsForeignKey
  have hkeyPart : Each (fun x => ¬ x.Creates)
      (s.entities.flatMap fun e => (s.keyStatements d e).resultOrNil) := by
    refine .flatMap fun e he => ?_
    rcases keyStatements_cases (hkeys e he) with ⟨k, -, -, heq⟩ | heq <;> rw [heq]
    · exact .singleton id
    · exact .nil
  have hseedPart : Each (fun x => ¬ x.Creates)
      (s.entities.flatMap fun e => (s.seedStatements d e).resultOrNil) := by
    refine .flatMap fun e he => Each.not_creates ?_
    refine (rows_seedStatements (hseeds e he)).mono fun x hx => ?_
    rw [hx.2]
    decide
  exact precedes_append_iff.mpr ⟨precedes_append_iff.mpr
    ⟨.of_not_second htablePart, .of_not_first hkeyPart, Or.inr hkeyPart⟩,
    .of_not_first hseedPart, Or.inr hseedPart⟩

end Schema

end SchemaPlan
