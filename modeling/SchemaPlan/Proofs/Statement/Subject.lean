import SchemaPlan.Creation
import SchemaPlan.Proofs.Noted
import SchemaPlan.Proofs.Schema.Views

/-!
# What statements are about

Every statement works on one table, or on the view or the sequence of one, and is of one kind.
What an entity of a schema contributes to its creation is about the table of that entity.

* `Statement.subject` is the table of a statement, `Statement.kind` what of it the statement works
  on.
* `Each` says that all statements of a list have a property, `About` that they keep to one table.
* `thoseAbout` picks the statements about one table; `thoseAbout_flatMap` says what that leaves of
  statements that are written table by table.
* `Schema.creation_eq_ok_iff` says when a schema can be created and what the creation consists of,
  `Schema.each_creation` that each of its statements stems from an entity.
-/
namespace SchemaPlan

/-! ## Statements -/

/-- What of a table a statement works on. -/
inductive StatementKind where
  | table
  | view
  | sequence
  | index
  | column
  | primaryKey
  | foreignKey
  | row
deriving DecidableEq

/-- What of a table a change works on. -/
def Change.kind : Change → StatementKind
  | dropColumn _ => .column
  | addColumn _ _ => .column
  | changeColumn _ _ => .column
  | setType _ => .column
  | setNullable _ _ => .column
  | setDefault _ => .column
  | dropPrimaryKey => .primaryKey
  | addPrimaryKey _ => .primaryKey
  | dropForeignKey _ => .foreignKey
  | addForeignKey _ => .foreignKey

namespace Statement

/-- What of a table a statement works on. -/
def kind : Statement → StatementKind
  | dropTable _ => .table
  | createTable _ _ _ _ => .table
  | dropView _ => .view
  | createView _ _ => .view
  | dropSequence _ => .sequence
  | createSequence _ => .sequence
  | ensureSequence _ => .sequence
  | createIndex _ => .index
  | dropIndex _ _ => .index
  | alter _ change => change.kind
  | insert _ _ => .row
  | insertUnless _ _ _ => .row
  | update _ _ _ => .row

/-- The table that a statement is about. -/
def subject : Statement → String
  | dropTable table => table
  | createTable table _ _ _ => table
  | dropView table => table
  | createView table _ => table
  | dropSequence table => table
  | createSequence table => table
  | ensureSequence table => table
  | createIndex index => index.table
  | dropIndex table _ => table
  | alter table _ => table
  | insert table _ => table
  | insertUnless table _ _ => table
  | update table _ _ => table

end Statement

/-! ## Lists of statements -/

/-- All statements of a list have a property. -/
def Each (p : Statement → Prop) (statements : List Statement) : Prop :=
  ∀ s ∈ statements, p s

namespace Each

variable {p q : Statement → Prop} {xs ys : List Statement}

theorem nil : Each p [] := by
  intro s hs
  cases hs

theorem cons {s : Statement} (hs : p s) (h : Each p xs) : Each p (s :: xs) :=
  List.forall_mem_cons.mpr ⟨hs, h⟩

theorem singleton {s : Statement} (hs : p s) : Each p [s] :=
  .cons hs .nil

theorem append (hx : Each p xs) (hy : Each p ys) : Each p (xs ++ ys) :=
  List.forall_mem_append.mpr ⟨hx, hy⟩

theorem ite {b : Prop} [Decidable b] (hx : Each p xs) (hy : Each p ys) :
    Each p (if b then xs else ys) := by
  split_ifs
  · exact hx
  · exact hy

theorem flatMap {β : Type} {f : β → List Statement} {bs : List β}
    (h : ∀ b ∈ bs, Each p (f b)) : Each p (bs.flatMap f) := by
  intro s hs
  obtain ⟨b, hb, hmem⟩ := List.mem_flatMap.mp hs
  exact h b hb s hmem

theorem map {β : Type} {f : β → Statement} {bs : List β} (h : ∀ b ∈ bs, p (f b)) :
    Each p (bs.map f) := by
  intro s hs
  obtain ⟨b, hb, rfl⟩ := List.mem_map.mp hs
  exact h b hb

theorem mono (h : Each p xs) (hpq : ∀ s, p s → q s) : Each q xs :=
  fun s hs => hpq s (h s hs)

end Each

/-- All statements of a list are about this table. -/
abbrev About (table : String) (statements : List Statement) : Prop :=
  Each (fun s => s.subject = table) statements

/-- The statements of a list that are about a table, in order. -/
def thoseAbout (table : String) (statements : List Statement) : List Statement :=
  statements.filter fun s => s.subject == table

theorem thoseAbout_append (table : String) (xs ys : List Statement) :
    thoseAbout table (xs ++ ys) = thoseAbout table xs ++ thoseAbout table ys :=
  List.filter_append xs ys

theorem thoseAbout_eq_self {table : String} {statements : List Statement}
    (h : About table statements) : thoseAbout table statements = statements := by
  rw [thoseAbout, List.filter_eq_self]
  intro s hs
  rw [h s hs]
  exact beq_self_eq_true table

theorem thoseAbout_eq_nil {table other : String} {statements : List Statement}
    (h : About other statements) (hne : other ≠ table) : thoseAbout table statements = [] := by
  rw [thoseAbout, List.filter_eq_nil_iff]
  intro s hs
  rw [h s hs, beq_iff_eq]
  exact hne

/-- Of statements written table by table those of one table are its own part. -/
theorem thoseAbout_flatMap {names : List String} {f : String → List Statement}
    (hnames : names.Nodup) (hf : ∀ name ∈ names, About name (f name)) (table : String) :
    thoseAbout table (names.flatMap f) = if table ∈ names then f table else [] := by
  induction names with
  | nil => rfl
  | cons name rest ih =>
    obtain ⟨hname, hrest⟩ := List.nodup_cons.mp hnames
    have hown : About name (f name) := hf name List.mem_cons_self
    rw [List.flatMap_cons, thoseAbout_append,
      ih hrest fun n hn => hf n (List.mem_cons_of_mem name hn)]
    by_cases heq : name = table
    · subst heq
      rw [thoseAbout_eq_self hown, if_neg hname, if_pos List.mem_cons_self, List.append_nil]
    · have hmem : table ∈ name :: rest ↔ table ∈ rest := by
        rw [List.mem_cons]
        exact or_iff_right fun h => heq h.symm
      rw [thoseAbout_eq_nil hown heq, List.nil_append]
      simp only [hmem]

/-- Of statements written table by table one is in the part of its own table. -/
theorem mem_flatMap_of_about {names : List String} {f : String → List Statement}
    (hf : ∀ name ∈ names, About name (f name)) {s : Statement} :
    s ∈ names.flatMap f ↔ s.subject ∈ names ∧ s ∈ f s.subject := by
  rw [List.mem_flatMap]
  constructor
  · rintro ⟨name, hname, hs⟩
    have hsubject : s.subject = name := hf name hname s hs
    rw [hsubject]
    exact ⟨hname, hs⟩
  · rintro ⟨hname, hs⟩
    exact ⟨s.subject, hname, hs⟩

/-! ## Entities -/

/-- A statement that an entity contributes is about its table, and adds a foreign key only when
the entity is one. -/
def Entity.Contributes (e : Entity) (s : Statement) : Prop :=
  s.subject = e.tableName ∧ (s.kind = .foreignKey → ∃ k, e = .foreignKey k)

/-- Whether a dialect can build an index; only one of them has indexes of full texts. -/
def Index.isBuildable (i : Index) (d : Dialect) : Bool :=
  !i.fulltext || d == .mysql

theorem Index.creation?_eq_some_iff {i : Index} {d : Dialect} {s : Statement} :
    i.creation? d = some s ↔ i.isBuildable d = true ∧ s = .createIndex i := by
  have hbuildable : i.isBuildable d = !(i.fulltext && d != .mysql) := by
    unfold Index.isBuildable
    cases i.fulltext <;> cases d <;> rfl
  rw [hbuildable, Index.creation?]
  cases i.fulltext && d != .mysql with
  | true => simp
  | false => simp [eq_comm]

theorem subject_of_creation? {i : Index} {d : Dialect} {s : Statement}
    (h : i.creation? d = some s) : s.subject = i.table ∧ s.kind = .index := by
  obtain ⟨-, rfl⟩ := Index.creation?_eq_some_iff.mp h
  exact ⟨rfl, rfl⟩

/-- Statements about a table that add no foreign key. -/
abbrev Plain (table : String) (statements : List Statement) : Prop :=
  Each (fun s => s.subject = table ∧ s.kind ≠ .foreignKey) statements

theorem plain_viewStatements (table database : String) :
    Plain table (viewStatements table database) :=
  .cons ⟨rfl, nofun⟩ (.singleton ⟨rfl, nofun⟩)

theorem Table.plain_clearing (t : Table) (d : Dialect) : Plain t.name (t.clearing d) :=
  .append (.cons ⟨rfl, nofun⟩ (.singleton ⟨rfl, nofun⟩))
    (.ite (.cons ⟨rfl, nofun⟩ (.singleton ⟨rfl, nofun⟩)) .nil)

/-- A table is created together with indexes of its own. -/
theorem Table.plain_creation {t : Table} {indexes : List Index} {d : Dialect}
    (hown : ∀ i ∈ indexes, i.table = t.name) {l : List Statement}
    (h : t.creation indexes d = .ok l) : Plain t.name l := by
  unfold Table.creation at h
  rw [bind_eq_ok_iff] at h
  obtain ⟨columns, -, h⟩ := h
  cases h
  refine .append (t.plain_clearing d) (.cons ⟨rfl, nofun⟩ ?_)
  -- One dialect has the indexes inside the statement that creates the table.
  cases d with
  | mysql => exact .nil
  | pgsql =>
    intro s hs
    obtain ⟨i, hi, hcreated⟩ := List.mem_filterMap.mp hs
    obtain ⟨hsubject, hkind⟩ := subject_of_creation? hcreated
    rw [hsubject, hkind]
    exact ⟨hown i hi, by decide⟩

/-- A seed row is written by statements on rows. -/
theorem SeedRow.each_blindStatements (r : SeedRow) (contents : SeedRow.Contents) :
    Each (fun s => s.subject = r.table ∧ s.kind = .row) (r.blindStatements contents) := by
  unfold SeedRow.blindStatements
  exact .ite (.singleton ⟨rfl, rfl⟩) (.cons ⟨rfl, rfl⟩ (.ite (.singleton ⟨rfl, rfl⟩) .nil))

namespace Schema

variable {s : Schema} {d : Deployment} {e : Entity} {l : List Statement}

theorem contributes_of_plain (h : Plain e.tableName l) : Each e.Contributes l :=
  h.mono fun _ hs => ⟨hs.1, fun hkind => absurd hkind hs.2⟩

/-- What an entity contributes to the tables: a table a view or a table, an index without a table
its creation. -/
theorem tableStatements_cases (h : (s.tableStatements d e).outcome = .ok l) :
    (∃ t database, e = .table t ∧
      SchemaPlan.mappedDatabase d.mapping t.group t.name = some database ∧
      l = viewStatements t.name database) ∨
    (∃ t, e = .table t ∧ SchemaPlan.mappedDatabase d.mapping t.group t.name = none ∧
      t.creation (s.indexesOf t.name).values d.target.dialect = .ok l) ∨
    (∃ i, e = .index i ∧ s.table? i.table = none ∧
      l = (i.creation? d.target.dialect).toList) ∨
    ((∀ t, e ≠ .table t) ∧ l = []) := by
  cases e with
  | table t =>
    simp only [tableStatements] at h
    split at h
    · rename_i database hdatabase
      cases h
      exact Or.inl ⟨t, database, rfl, hdatabase, rfl⟩
    · rename_i hdatabase
      exact Or.inr (Or.inl ⟨t, rfl, hdatabase, h⟩)
  | index i =>
    simp only [tableStatements, Option.isNone_iff_eq_none] at h
    split_ifs at h with hnone
    · cases h
      exact Or.inr (Or.inr (Or.inl ⟨i, rfl, hnone, rfl⟩))
    · cases h
      exact Or.inr (Or.inr (Or.inr ⟨nofun, rfl⟩))
  | foreignKey k =>
    cases h
    exact Or.inr (Or.inr (Or.inr ⟨nofun, rfl⟩))
  | seed r =>
    cases h
    exact Or.inr (Or.inr (Or.inr ⟨nofun, rfl⟩))

/-- A foreign key of a local table contributes its addition. -/
theorem keyStatements_cases (h : (s.keyStatements d e).outcome = .ok l) :
    (∃ k, e = .foreignKey k ∧ s.mappedDatabase d.mapping k.table = none ∧
      l = [.alter k.table (.addForeignKey k)]) ∨
    l = [] := by
  cases e with
  | foreignKey k =>
    simp only [keyStatements, Option.isNone_iff_eq_none] at h
    split_ifs at h with hlocal
    · cases h
      exact Or.inl ⟨k, rfl, hlocal, rfl⟩
    · cases h
      exact Or.inr rfl
  | table t =>
    cases h
    exact Or.inr rfl
  | index i =>
    cases h
    exact Or.inr rfl
  | seed r =>
    cases h
    exact Or.inr rfl

/-- A seed row of a local table contributes the statements that need no database. -/
theorem seedStatements_cases (h : (s.seedStatements d e).outcome = .ok l) :
    (∃ r contents, e = .seed r ∧ s.mappedDatabase d.mapping r.table = none ∧
      (r.resolve d).outcome = .ok contents ∧ l = r.blindStatements contents) ∨
    l = [] := by
  cases e with
  | seed r =>
    simp only [seedStatements, Option.isNone_iff_eq_none] at h
    split_ifs at h with hlocal
    · rw [SeedRow.statements, Noted.outcome_bind, bind_eq_ok_iff] at h
      obtain ⟨contents, hcontents, h⟩ := h
      cases h
      exact Or.inl ⟨r, contents, rfl, hlocal, hcontents, rfl⟩
    · cases h
      exact Or.inr rfl
  | table t =>
    cases h
    exact Or.inr rfl
  | index i =>
    cases h
    exact Or.inr rfl
  | foreignKey k =>
    cases h
    exact Or.inr rfl

/-- What is written for the tables adds no foreign key. -/
theorem plain_tableStatements (h : (s.tableStatements d e).outcome = .ok l) :
    Plain e.tableName l := by
  rcases tableStatements_cases h with ⟨t, database, rfl, -, rfl⟩ | ⟨t, rfl, -, hcreation⟩ |
    ⟨i, rfl, -, rfl⟩ | ⟨-, rfl⟩
  · exact plain_viewStatements t.name database
  · exact Table.plain_creation (s.isTableMap_indexesOf t.name).belongs hcreation
  · intro x hx
    obtain ⟨hsubject, hkind⟩ := subject_of_creation? (Option.mem_toList.mp hx)
    rw [hkind]
    exact ⟨hsubject, by decide⟩
  · exact .nil

theorem each_tableStatements (h : (s.tableStatements d e).outcome = .ok l) :
    Each e.Contributes l :=
  contributes_of_plain (plain_tableStatements h)

theorem each_keyStatements (h : (s.keyStatements d e).outcome = .ok l) :
    Each e.Contributes l := by
  rcases keyStatements_cases h with ⟨k, rfl, -, rfl⟩ | rfl
  · exact .singleton ⟨rfl, fun _ => ⟨k, rfl⟩⟩
  · exact .nil

/-- What is written for the seed rows is about rows. -/
theorem rows_seedStatements (h : (s.seedStatements d e).outcome = .ok l) :
    Each (fun x => x.subject = e.tableName ∧ x.kind = .row) l := by
  rcases seedStatements_cases h with ⟨r, contents, rfl, -, -, rfl⟩ | rfl
  · exact r.each_blindStatements contents
  · exact .nil

theorem each_seedStatements (h : (s.seedStatements d e).outcome = .ok l) :
    Each e.Contributes l :=
  contributes_of_plain ((rows_seedStatements h).mono fun _ hs => ⟨hs.1, by rw [hs.2]; decide⟩)

/-- The creation of a schema succeeds when each entity can be written; it then consists of its three
passes over the entities. -/
theorem creation_eq_ok_iff :
    (s.creation d).outcome = .ok l ↔
      (∀ e ∈ s.entities, (s.tableStatements d e).outcome = .ok (s.tableStatements d e).resultOrNil) ∧
      (∀ e ∈ s.entities, (s.keyStatements d e).outcome = .ok (s.keyStatements d e).resultOrNil) ∧
      (∀ e ∈ s.entities, (s.seedStatements d e).outcome = .ok (s.seedStatements d e).resultOrNil) ∧
      l = s.entities.flatMap (fun e => (s.tableStatements d e).resultOrNil) ++
        s.entities.flatMap (fun e => (s.keyStatements d e).resultOrNil) ++
        s.entities.flatMap (fun e => (s.seedStatements d e).resultOrNil) := by
  rw [creation]
  simp only [Noted.outcome_gather_append, Noted.outcome_gather_map]
  constructor
  · rintro ⟨_, _, ⟨_, _, ⟨htables, rfl⟩, ⟨hkeys, rfl⟩, rfl⟩, ⟨hseeds, rfl⟩, rfl⟩
    exact ⟨htables, hkeys, hseeds, rfl⟩
  · rintro ⟨htables, hkeys, hseeds, rfl⟩
    exact ⟨_, _, ⟨_, _, ⟨htables, rfl⟩, ⟨hkeys, rfl⟩, rfl⟩, ⟨hseeds, rfl⟩, rfl⟩

/-- Each statement of the creation of a schema stems from one of its entities. -/
theorem each_creation (h : (s.creation d).outcome = .ok l) :
    Each (fun x => ∃ e ∈ s.entities, e.Contributes x) l := by
  obtain ⟨htables, hkeys, hseeds, rfl⟩ := creation_eq_ok_iff.mp h
  have hentity : ∀ e ∈ s.entities, ∀ x, e.Contributes x →
      ∃ e ∈ s.entities, e.Contributes x := fun e he _ hx => ⟨e, he, hx⟩
  exact .append
    (.append
      (.flatMap fun e he => (each_tableStatements (htables e he)).mono (hentity e he))
      (.flatMap fun e he => (each_keyStatements (hkeys e he)).mono (hentity e he)))
    (.flatMap fun e he => (each_seedStatements (hseeds e he)).mono (hentity e he))

end Schema

end SchemaPlan
