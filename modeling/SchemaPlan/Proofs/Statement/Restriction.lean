import SchemaPlan.Proofs.Statement.Creation

/-!
# Creating a part of a schema

What an entity contributes to the creation of a schema depends on the entities of its table alone.
So some of the tables are created by the statements that create them in the whole schema, in the
same order, and all other tables by what is left of these statements.

* `Schema.tableStatements_of_agreesOn`, `Schema.keyStatements_of_agreesOn` and
  `Schema.seedStatements_of_agreesOn` say what the contribution of an entity depends on.
* `Schema.creation_ofTables` is about the creation of one part, `Schema.creation_interleaves` about
  two parts that make up the schema.
-/
namespace SchemaPlan

namespace Schema

variable {s u : Schema} {d : Deployment} {e : Entity} {l : List Statement}

/-! ## One entity -/

theorem tableStatements_of_agreesOn (h : s.AgreesOn u e.tableName) :
    s.tableStatements d e = u.tableStatements d e := by
  cases e with
  | table t => exact tableStatements_congr h.indexes
  | index i =>
    have htable : s.table? i.table = u.table? i.table := h.table
    rw [tableStatements, tableStatements, htable]
  | foreignKey k => rfl
  | seed r => rfl

theorem keyStatements_of_agreesOn (h : s.AgreesOn u e.tableName) :
    s.keyStatements d e = u.keyStatements d e := by
  cases e with
  | foreignKey k =>
    have htable : s.table? k.table = u.table? k.table := h.table
    rw [keyStatements, keyStatements, mappedDatabase, mappedDatabase, htable]
  | table t => rfl
  | index i => rfl
  | seed r => rfl

theorem seedStatements_of_agreesOn (h : s.AgreesOn u e.tableName) :
    s.seedStatements d e = u.seedStatements d e := by
  cases e with
  | seed r => exact seedStatements_congr h.table
  | table t => rfl
  | index i => rfl
  | foreignKey k => rfl

/-! ## Some of the tables -/

/-- What the entities with a property contribute, kind by kind. -/
def creationOf (s : Schema) (d : Deployment) (p : Entity → Bool) : List Statement :=
  (s.entities.filter p).flatMap (fun e => (s.tableStatements d e).resultOrNil) ++
    (s.entities.filter p).flatMap (fun e => (s.keyStatements d e).resultOrNil) ++
    (s.entities.filter p).flatMap (fun e => (s.seedStatements d e).resultOrNil)

/-- The parts of a schema that can be created can be created, with the statements that their
entities contribute to the whole. -/
theorem creation_ofTables (h : (s.creation d).outcome = .ok l) (p : String → Bool) :
    ((s.ofTables p).creation d).outcome = .ok (s.creationOf d fun e => p e.tableName) := by
  obtain ⟨htables, hkeys, hseeds, -⟩ := creation_eq_ok_iff.mp h
  have hagrees : ∀ e ∈ (s.ofTables p).entities, e ∈ s.entities ∧
      (s.ofTables p).AgreesOn s e.tableName := by
    intro e he
    obtain ⟨hmem, hp⟩ := List.mem_filter.mp he
    exact ⟨hmem, (s.agreesOn_ofTables p hp).symm⟩
  rw [creation_eq_ok_iff]
  refine ⟨?_, ?_, ?_, ?_⟩
  · intro e he
    rw [tableStatements_of_agreesOn (hagrees e he).2]
    exact htables e (hagrees e he).1
  · intro e he
    rw [keyStatements_of_agreesOn (hagrees e he).2]
    exact hkeys e (hagrees e he).1
  · intro e he
    rw [seedStatements_of_agreesOn (hagrees e he).2]
    exact hseeds e (hagrees e he).1
  · unfold creationOf
    congr 1
    · congr 1
      · exact List.flatMap_congr fun e he => by rw [tableStatements_of_agreesOn (hagrees e he).2]
      · exact List.flatMap_congr fun e he => by rw [keyStatements_of_agreesOn (hagrees e he).2]
    · exact List.flatMap_congr fun e he => by rw [seedStatements_of_agreesOn (hagrees e he).2]

/-- **Two parts that make up a schema** are created by the statements that create the schema, each
of which belongs to one of them. -/
theorem creation_interleaves (h : (s.creation d).outcome = .ok l) {p q : String → Bool}
    (hpq : ∀ e ∈ s.entities, q e.tableName = !p e.tableName) :
    ∃ kept rest, ((s.ofTables p).creation d).outcome = .ok kept ∧
      ((s.ofTables q).creation d).outcome = .ok rest ∧ Interleaves kept rest l := by
  refine ⟨_, _, creation_ofTables h p, creation_ofTables h q, ?_⟩
  have hrest : (s.entities.filter fun e => q e.tableName) =
      s.entities.filter fun e => !p e.tableName :=
    List.filter_congr hpq
  obtain ⟨-, -, -, rfl⟩ := creation_eq_ok_iff.mp h
  unfold creationOf
  rw [hrest]
  exact ((Interleaves.flatMap_filter _ _ _).append (Interleaves.flatMap_filter _ _ _)).append
    (Interleaves.flatMap_filter _ _ _)

/-! ## The text -/

theorem creationSql_eq_ok_iff {texts : List String} :
    (s.creationSql d).outcome = .ok texts ↔
      ∃ l, (s.creation d).outcome = .ok l ∧ texts = l.map (Statement.sql d.target) := by
  rw [creationSql, Noted.outcome_bind]
  exact bind_pure_eq_ok_iff _ _ _

/-- **A restriction does not change the statements of the tables that it keeps**: they are written
as they are for the whole schema, and together with those of all other tables they are all of its
statements. -/
theorem creationSql_of_restriction {texts : List String} (h : (s.creationSql d).outcome = .ok texts)
    (names others : List String)
    (hothers : ∀ e ∈ s.entities, e.tableName ∈ others ↔ e.tableName ∉ names) :
    ∃ kept rest, ((s.restrictTo names).creationSql d).outcome = .ok kept ∧
      ((s.restrictTo others).creationSql d).outcome = .ok rest ∧
      kept.Sublist texts ∧ rest.Sublist texts ∧ (kept ++ rest).Perm texts := by
  obtain ⟨l, hl, rfl⟩ := creationSql_eq_ok_iff.mp h
  have hcomplement : ∀ e ∈ s.entities,
      others.contains e.tableName = !names.contains e.tableName := by
    intro e he
    rw [Bool.eq_iff_iff]
    simpa using hothers e he
  obtain ⟨kept, rest, hkept, hrest, hsum⟩ := creation_interleaves hl hcomplement
  have htexts := hsum.map (Statement.sql d.target)
  exact ⟨_, _, creationSql_eq_ok_iff.mpr ⟨kept, hkept, rfl⟩,
    creationSql_eq_ok_iff.mpr ⟨rest, hrest, rfl⟩, htexts.sublist_left, htexts.symm.sublist_left,
    htexts.perm⟩

/-! ## A part of a library -/

/-- Books of two versions, an index and a row without a table, and a key from books to authors. -/
def library : Schema :=
  ⟨[.seed ⟨"book", [⟨"a", .literal (some (.text "1")), false⟩], [], false⟩,
    .table ⟨"author", [⟨"id", .base .integer, 0, 0, true, none, none, false, false, none⟩], none,
      none⟩,
    .index ⟨"i", "loan", ["a"], false, false⟩,
    .table ⟨"book", [⟨"a", .base .integer, 0, 0, true, none, none, false, false, none⟩], none, none⟩,
    .foreignKey ⟨"k", "book", "author", [⟨"a", "id"⟩]⟩,
    .table ⟨"book", [], none, some "old"⟩,
    .index ⟨"j", "author", ["id"], false, false⟩,
    .seed ⟨"loan", [⟨"a", .literal (some (.text "2")), false⟩], [], false⟩]⟩

/-- Where `library` is created; old tables are in the archive. -/
def libraryDeployment : Deployment :=
  ⟨⟨.pgsql, ""⟩, some ⟨⟨[]⟩, ⟨[("old", "archive")]⟩, ["archive"]⟩, some "", .empty⟩

/-- The creation of `library`. -/
def libraryTexts : List String :=
  ["drop table if exists author", "drop view if exists author",
    "create table author (id integer default NULL)", "create index j on author (id)",
    "create index i on loan (a)", "drop table if exists book", "drop view if exists book",
    "create table book (a integer default NULL)", "drop table if exists book",
    "create or replace view book as select * from archive.book",
    "alter table book add constraint k foreign key (a) references author (id)",
    "insert into book (a) values (1)", "insert into loan (a) values (2)"]

/-- Books and loans are created as in the whole library, authors with what is left. -/
theorem library_in_parts :
    (library.creationSql libraryDeployment).outcome = .ok libraryTexts ∧
      (∀ e ∈ library.entities, e.tableName ∈ ["author"] ↔ e.tableName ∉ ["book", "loan"]) ∧
      ∃ kept rest,
        ((library.restrictTo ["book", "loan"]).creationSql libraryDeployment).outcome = .ok kept ∧
        ((library.restrictTo ["author"]).creationSql libraryDeployment).outcome = .ok rest ∧
        kept.Sublist libraryTexts ∧ rest.Sublist libraryTexts ∧ (kept ++ rest).Perm libraryTexts := by
  have hcreation : (library.creationSql libraryDeployment).outcome = .ok libraryTexts := by
    decide +kernel
  have hothers : ∀ e ∈ library.entities,
      e.tableName ∈ ["author"] ↔ e.tableName ∉ ["book", "loan"] := by
    decide
  exact ⟨hcreation, hothers, creationSql_of_restriction hcreation _ _ hothers⟩

end Schema

end SchemaPlan
