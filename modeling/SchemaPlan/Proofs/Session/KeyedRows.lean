import Mathlib.Data.List.Flatten
import SchemaPlan.Proofs.Session.Inputs
import SchemaPlan.Proofs.Statement.Restriction

/-!
# Keyed seed rows by themselves

The rows that name key columns can be written without the schema around them.  They are then written
as they are in the script that creates the schema, where that script has them at all.  A table that
lives in another database is a view there, and no row is written to a view, but the rows by
themselves do not ask where a table lives.

* `Schema.local_of_creation` says that a creation writes rows to local tables alone.
* `Command.keyedRows_sublist_creation_iff` says when the rows are part of the creation.
* `Command.keyedSeeds_in_creation` is about the two scripts of one document.
-/
namespace SchemaPlan

variable {s : Schema} {d : Deployment} {e : Entity} {l : List Statement}

/-! ## Rows in a creation -/

theorem Table.each_creation_ne_row {t : Table} {indexes : List Index} {dialect : Dialect}
    (h : t.creation indexes dialect = .ok l) : Each (fun x => x.kind ≠ .row) l := by
  unfold Table.creation at h
  rw [bind_eq_ok_iff] at h
  obtain ⟨columns, -, h⟩ := h
  cases h
  refine .append (.append (.cons nofun (.singleton nofun)) (.ite ?_ .nil)) (.cons nofun ?_)
  · exact .cons nofun (.singleton nofun)
  · cases dialect with
    | mysql => exact .nil
    | pgsql =>
      intro x hx
      obtain ⟨i, -, hcreated⟩ := List.mem_filterMap.mp hx
      rw [(subject_of_creation? hcreated).2]
      decide

namespace Schema

/-- Tables and indexes are written without rows. -/
theorem each_tableStatements_ne_row (h : (s.tableStatements d e).outcome = .ok l) :
    Each (fun x => x.kind ≠ .row) l := by
  rcases tableStatements_cases h with ⟨t, database, -, -, rfl⟩ | ⟨t, -, -, hcreation⟩ |
    ⟨i, -, -, rfl⟩ | ⟨-, rfl⟩
  · exact .cons nofun (.singleton nofun)
  · exact Table.each_creation_ne_row hcreation
  · intro x hx
    rw [(subject_of_creation? (Option.mem_toList.mp hx)).2]
    decide
  · exact .nil

theorem each_keyStatements_ne_row (h : (s.keyStatements d e).outcome = .ok l) :
    Each (fun x => x.kind ≠ .row) l := by
  rcases keyStatements_cases h with ⟨k, -, -, rfl⟩ | rfl
  · exact .singleton nofun
  · exact .nil

/-- Rows are written to local tables alone. -/
theorem local_of_seedStatements (h : (s.seedStatements d e).outcome = .ok l) :
    Each (fun x => s.mappedDatabase d.mapping x.subject = none) l := by
  rcases seedStatements_cases h with ⟨r, contents, rfl, hlocal, -, rfl⟩ | rfl
  · refine (r.each_blindStatements contents).mono fun x hx => ?_
    rw [hx.1]
    exact hlocal
  · exact .nil

/-- The creation of a schema writes rows to local tables alone. -/
theorem local_of_creation (h : (s.creation d).outcome = .ok l) :
    Each (fun x => x.kind = .row → s.mappedDatabase d.mapping x.subject = none) l := by
  obtain ⟨htables, hkeys, hseeds, rfl⟩ := creation_eq_ok_iff.mp h
  refine .append (.append (.flatMap fun e he => ?_) (.flatMap fun e he => ?_))
    (.flatMap fun e he => ?_)
  · exact (each_tableStatements_ne_row (htables e he)).mono fun _ hx hrow => absurd hrow hx
  · exact (each_keyStatements_ne_row (hkeys e he)).mono fun _ hx hrow => absurd hrow hx
  · exact (local_of_seedStatements (hseeds e he)).mono fun _ hx _ => hx

/-- No row with keys is one of a table that lives in another database. -/
def KeyedRowsLocal (s : Schema) (d : Deployment) : Prop :=
  ∀ r ∈ s.declaredSeeds, r.keys ≠ [] → s.mappedDatabase d.mapping r.table = none

instance (s : Schema) (d : Deployment) : Decidable (s.KeyedRowsLocal d) :=
  inferInstanceAs (Decidable (∀ r ∈ s.declaredSeeds, r.keys ≠ [] → _ = none))

end Schema

/-- Some statement is written for each row. -/
theorem SeedRow.blindStatements_ne_nil (r : SeedRow) (contents : SeedRow.Contents) :
    r.blindStatements contents ≠ [] := by
  unfold SeedRow.blindStatements
  dsimp only
  split_ifs <;> exact List.cons_ne_nil _ _

namespace Command

/-! ## Rows by themselves -/

/-- What an entity contributes to the rows by themselves: a row with keys its statements. -/
theorem keyedSeed_cases (h : (keyedSeed d e).outcome = .ok l) :
    (∃ r contents, e = .seed r ∧ r.keys ≠ [] ∧ (r.resolve d).outcome = .ok contents ∧
      l = r.blindStatements contents) ∨
    (∀ r, e = .seed r → r.keys = []) ∧ l = [] := by
  cases e with
  | seed r =>
    simp only [keyedSeed, List.isEmpty_iff] at h
    split_ifs at h with hkeys
    · cases h
      refine Or.inr ⟨?_, rfl⟩
      rintro _ ⟨⟩
      exact hkeys
    · rw [SeedRow.statements, Noted.outcome_bind, bind_eq_ok_iff] at h
      obtain ⟨contents, hcontents, h⟩ := h
      cases h
      exact Or.inl ⟨r, contents, rfl, hkeys, hcontents, rfl⟩
  | table _ | index _ | foreignKey _ =>
    cases h
    refine Or.inr ⟨?_, rfl⟩
    rintro _ ⟨⟩

theorem each_keyedSeed (h : (keyedSeed d e).outcome = .ok l) :
    Each (fun x => x.subject = e.tableName ∧ x.kind = .row) l := by
  rcases keyedSeed_cases h with ⟨r, contents, rfl, -, -, rfl⟩ | ⟨-, rfl⟩
  · exact r.each_blindStatements contents
  · exact .nil

/-- A row of a local table is written as in the creation. -/
theorem keyedSeed_sublist_seedStatements (h : s.mappedDatabase d.mapping e.tableName = none) :
    (keyedSeed d e).resultOrNil.Sublist (s.seedStatements d e).resultOrNil := by
  cases e with
  | seed r =>
    have hlocal : s.mappedDatabase d.mapping r.table = none := h
    have hwritten : s.seedStatements d (.seed r) = r.statements d := by
      rw [Schema.seedStatements, hlocal]
      rfl
    rw [hwritten, keyedSeed]
    split_ifs
    · exact List.nil_sublist _
    · exact List.Sublist.refl _
  | table _ | index _ | foreignKey _ => exact List.Sublist.refl _

/-- The statements of the rows of a schema that name key columns. -/
def keyedRows (d : Deployment) (s : Schema) : Noted (List Statement) :=
  Noted.gather (s.entities.map (keyedSeed d))

variable {rows : List Statement}

theorem keyedRows_eq_ok_iff :
    (keyedRows d s).outcome = .ok rows ↔
      (∀ e ∈ s.entities, (keyedSeed d e).outcome = .ok (keyedSeed d e).resultOrNil) ∧
        rows = s.entities.flatMap fun e => (keyedSeed d e).resultOrNil :=
  Noted.outcome_gather_map _ _ _

/-- The table of a statement is no view. -/
def isLocal (s : Schema) (d : Deployment) (x : Statement) : Bool :=
  (s.mappedDatabase d.mapping x.subject).isNone

/-- The rows of local tables are part of the creation. -/
theorem filter_keyedRows_sublist_creation (hrows : (keyedRows d s).outcome = .ok rows)
    (hall : (s.creation d).outcome = .ok l) : (rows.filter (isLocal s d)).Sublist l := by
  obtain ⟨hkeyed, rfl⟩ := keyedRows_eq_ok_iff.mp hrows
  obtain ⟨-, -, -, rfl⟩ := Schema.creation_eq_ok_iff.mp hall
  rw [List.filter_flatMap]
  refine (List.Sublist.flatMap_right _ fun e he => ?_).trans (List.sublist_append_right _ _)
  cases hmapped : s.mappedDatabase d.mapping e.tableName with
  | none => exact List.filter_sublist.trans (keyedSeed_sublist_seedStatements hmapped)
  | some database =>
    -- nothing of a row is left whose table is a view
    have hnone : ((keyedSeed d e).resultOrNil.filter (isLocal s d)) = [] := by
      rw [List.filter_eq_nil_iff]
      intro x hx
      rw [isLocal, (each_keyedSeed (hkeyed e he) x hx).1, hmapped]
      exact Bool.false_ne_true
    rw [hnone]
    exact List.nil_sublist _

/-- The rows by themselves are part of the creation exactly when the tables of all of them are
local. -/
theorem keyedRows_sublist_creation_iff (hrows : (keyedRows d s).outcome = .ok rows)
    (hall : (s.creation d).outcome = .ok l) : rows.Sublist l ↔ s.KeyedRowsLocal d := by
  obtain ⟨hkeyed, hrowsEq⟩ := keyedRows_eq_ok_iff.mp hrows
  constructor
  · intro hsub r hr hkeys
    have he : Entity.seed r ∈ s.entities := s.mem_declaredSeeds.mp hr
    -- the first statement of the row is in both lists
    rcases keyedSeed_cases (hkeyed _ he) with ⟨r', contents, heq, -, -, hwritten⟩ | ⟨hnone, -⟩
    · cases heq
      obtain ⟨x, hx⟩ := List.exists_mem_of_ne_nil _ (r.blindStatements_ne_nil contents)
      have hmem : x ∈ rows := by
        rw [hrowsEq]
        exact List.mem_flatMap.mpr ⟨_, he, hwritten ▸ hx⟩
      obtain ⟨hsubject, hrow⟩ := r.each_blindStatements contents x hx
      rw [← hsubject]
      exact Schema.local_of_creation hall x (hsub.subset hmem) hrow
    · exact absurd (hnone r rfl) hkeys
  · intro hlocal
    have hkept : rows.filter (isLocal s d) = rows := by
      rw [List.filter_eq_self, hrowsEq]
      intro x hx
      obtain ⟨e, he, hx⟩ := List.mem_flatMap.mp hx
      rcases keyedSeed_cases (hkeyed e he) with ⟨r, contents, rfl, hkeys, -, -⟩ | ⟨-, hnil⟩
      · rw [isLocal, (each_keyedSeed (hkeyed _ he) x hx).1, Entity.tableName,
          hlocal r (s.mem_declaredSeeds.mpr he) hkeys]
        rfl
      · rw [hnil] at hx
        cases hx
    rw [← hkept]
    exact filter_keyedRows_sublist_creation hrows hall

/-! ## The two scripts of a document -/

variable {c : Command} {o : Outside} {tree : FileTree} {settings : Settings} {name : Option String}
  {text : String}

/-- What a command reads under settings: a schema from its document, headed for a deployment. -/
def Reads (o : Outside) (tree : FileTree) (settings : Settings) (name : Option String) (d : Deployment)
    (s : Schema) : Prop :=
  readSchema o tree settings name = .ok s ∧
    ∃ mapping, settings.mapping = .ok mapping ∧ d = deployment tree settings mapping

theorem Reads.unique {d' : Deployment} {s' : Schema} (h : Reads o tree settings name d s)
    (h' : Reads o tree settings name d' s') : d = d' ∧ s = s' := by
  obtain ⟨hschema, mapping, hmapping, rfl⟩ := h
  obtain ⟨hschema', mapping', hmapping', rfl⟩ := h'
  obtain rfl := Except.ok.inj (hmapping.symm.trans hmapping')
  exact ⟨rfl, Except.ok.inj (hschema.symm.trans hschema')⟩

/-- What it takes to make a script of one document. -/
theorem outcome_scriptOf_iff (statements : Deployment → Schema → Noted (List String)) :
    (do
      let mapping ← Noted.ofExcept settings.mapping
      let schema ← Noted.ofExcept (readSchema o tree settings name)
      let texts ← statements (deployment tree settings mapping) schema
      c.asScript settings.dialect texts).outcome = .ok text ↔
      ∃ d s texts, Reads o tree settings name d s ∧ (statements d s).outcome = .ok texts ∧
        text = script settings.dialect texts := by
  have hscript : ∀ texts, (c.asScript settings.dialect texts).outcome = .ok text ↔
      text = script settings.dialect texts := by
    intro texts
    have hmade : (c.asScript settings.dialect texts).outcome =
        .ok (script settings.dialect texts) := rfl
    rw [hmade, Except.ok.injEq]
    exact eq_comm
  simp only [Noted.outcome_bind, bind_eq_ok_iff, Noted.outcome_ofExcept, hscript]
  constructor
  · rintro ⟨mapping, hmapping, schema, hschema, texts, htexts, heq⟩
    exact ⟨_, schema, texts, ⟨hschema, mapping, hmapping, rfl⟩, htexts, heq⟩
  · rintro ⟨_, schema, texts, ⟨hschema, mapping, hmapping, rfl⟩, htexts, heq⟩
    exact ⟨mapping, hmapping, schema, hschema, texts, htexts, heq⟩

theorem keyedSeeds_eq_ok_iff {texts : List String} :
    (keyedSeeds d s).outcome = .ok texts ↔
      ∃ rows, (keyedRows d s).outcome = .ok rows ∧ texts = rows.map (Statement.sql d.target) := by
  rw [keyedSeeds, Noted.outcome_bind]
  exact bind_pure_eq_ok_iff _ _ _

/-- **Keyed rows and the creation.**  A document has a script of its keyed rows and a script that
creates it.  The statements of rows in local tables stand in the creation as well, in the same
order; and all statements of the first script do exactly when every keyed row is one of a local
table. -/
theorem keyedSeeds_in_creation {c c' : Command} {seedText text : String} (htask : c.task = .seed)
    (htask' : c'.task = .create) (hname : c.documents = [name]) (hname' : c'.documents = [name])
    (hseed : (c.generateWith o tree settings).outcome = .ok seedText)
    (hcreate : (c'.generateWith o tree settings).outcome = .ok text) :
    ∃ d s rows all, Reads o tree settings name d s ∧ (keyedRows d s).outcome = .ok rows ∧
      (s.creation d).outcome = .ok all ∧
      seedText = script settings.dialect (rows.map (Statement.sql d.target)) ∧
      text = script settings.dialect (all.map (Statement.sql d.target)) ∧
      (rows.filter (isLocal s d)).Sublist all ∧ (rows.Sublist all ↔ s.KeyedRowsLocal d) ∧
      (s.KeyedRowsLocal d →
        (rows.map (Statement.sql d.target)).Sublist (all.map (Statement.sql d.target))) := by
  rw [generateWith_of_seed htask hname, outcome_scriptOf_iff] at hseed
  rw [generateWith_of_create htask' hname',
    outcome_scriptOf_iff fun d schema => schema.creationSql d] at hcreate
  obtain ⟨d, s, _, hreads, hkeyed, rfl⟩ := hseed
  obtain ⟨d', s', _, hreads', hcreation, rfl⟩ := hcreate
  -- both scripts are made of the same schema for the same place
  obtain ⟨rfl, rfl⟩ := hreads.unique hreads'
  obtain ⟨rows, hrows, rfl⟩ := keyedSeeds_eq_ok_iff.mp hkeyed
  obtain ⟨all, hall, rfl⟩ := Schema.creationSql_eq_ok_iff.mp hcreation
  have hpart := keyedRows_sublist_creation_iff hrows hall
  exact ⟨d, s, rows, all, hreads, hrows, hall, rfl, rfl,
    filter_keyedRows_sublist_creation hrows hall, hpart, fun h => (hpart.mpr h).map _⟩

/-! ## An old book -/

/-- The text of a document with a table of a group, and a keyed row of it. -/
def bookText : String :=
  "entities:\n- kind: table\n  name: book\n  group: old\n  columns:\n" ++
    "  - name: id\n    type: integer\n" ++
    "- kind: insert\n  table: book\n  keyColumns: [id]\n  columns:\n" ++
    "  - name: id\n    value: 7\n"

/-- The document. -/
def bookDoc : Doc :=
  .mapping [(some "entities", .list [
    .mapping [(some "kind", .text "table"), (some "name", .text "book"),
      (some "group", .text "old"), (some "columns", .list [
        .mapping [(some "name", .text "id"), (some "type", .text "integer")]])],
    .mapping [(some "kind", .text "insert"), (some "table", .text "book"),
      (some "keyColumns", .list [.text "id"]), (some "columns", .list [
        .mapping [(some "name", .text "id"), (some "value", .int 7)]])]])]

/-- A reader of the document. -/
def bookReader : Outside := .knowing bookText bookDoc

/-- The document in a file. -/
def bookFiles : FileTree := ⟨[(Path.ofText "m.yaml", Text.utf8 bookText)], []⟩

/-- The group of the book lives in another database. -/
def bookMapped : Settings := { Settings.standard with map := "group:old:archive" }

/-- The group lives in another database, but not the book. -/
def bookKept : Settings := { Settings.standard with map := "group:old:archive,book:" }

/-- A command on the document. -/
def bookCommand (t : Task) : Command := { Command.plain t with documents := [some "m.yaml"] }

/-- The row of the document. -/
def bookRow : String :=
  "insert into book (id) select 7 from dual where not exists (select 1 from book where id = 7)"

/-- What creates the document with its table here. -/
def bookCreation : List String :=
  ["drop table if exists book", "drop view if exists book",
    "create table book (id integer default NULL) engine=InnoDB character set utf8mb4 " ++
      "collate utf8mb4_general_ci",
    bookRow]

/-- What creates the document with its table in another database. -/
def bookView : List String :=
  ["drop table if exists book", "create or replace view book as select * from archive.book"]

theorem readDoc_bookFiles : readDoc bookReader bookFiles "m.yaml" = .ok bookDoc :=
  readDoc_knowing rfl (by decide +kernel)

/-- The scripts of the document, with the book in another database and here. -/
theorem generateWith_book :
    (((bookCommand .seed).generateWith bookReader bookFiles bookMapped).outcome =
        .ok (script .mysql [bookRow]) ∧
      ((bookCommand .create).generateWith bookReader bookFiles bookMapped).outcome =
        .ok (script .mysql bookView)) ∧
    ((bookCommand .seed).generateWith bookReader bookFiles bookKept).outcome =
        .ok (script .mysql [bookRow]) ∧
      ((bookCommand .create).generateWith bookReader bookFiles bookKept).outcome =
        .ok (script .mysql bookCreation) ∧
      (do
        let mapping ← bookKept.mapping
        let s ← readSchema bookReader bookFiles bookKept (some "m.yaml")
        return decide (s.KeyedRowsLocal (deployment bookFiles bookKept mapping))) =
          Except.ok true := by
  rw [generateWith_of_seed (c := bookCommand .seed) rfl rfl,
    generateWith_of_seed (c := bookCommand .seed) rfl rfl,
    generateWith_of_create (c := bookCommand .create) rfl rfl,
    generateWith_of_create (c := bookCommand .create) rfl rfl]
  simp only [readSchema, readWhole, readDoc_bookFiles]
  decide +kernel

/-- The row of the book is part of the creation where the book is kept here. -/
theorem bookRow_in_creation :
    ((bookCommand .seed).generateWith bookReader bookFiles bookKept).outcome =
        .ok (script .mysql [bookRow]) ∧
      ((bookCommand .create).generateWith bookReader bookFiles bookKept).outcome =
        .ok (script .mysql bookCreation) ∧
      ∃ d s rows all, Reads bookReader bookFiles bookKept (some "m.yaml") d s ∧
        (keyedRows d s).outcome = .ok rows ∧ (s.creation d).outcome = .ok all ∧
        script .mysql [bookRow] = script .mysql (rows.map (Statement.sql d.target)) ∧
        script .mysql bookCreation = script .mysql (all.map (Statement.sql d.target)) ∧
        rows.Sublist all ∧
        (rows.map (Statement.sql d.target)).Sublist (all.map (Statement.sql d.target)) := by
  obtain ⟨-, hseed, hcreate, hchecked⟩ := generateWith_book
  obtain ⟨d, s, rows, all, hreads, hrows, hall, hrowTexts, hallTexts, -, hpart, htexts⟩ :=
    keyedSeeds_in_creation rfl rfl rfl rfl hseed hcreate
  have hlocal : s.KeyedRowsLocal d := by
    obtain ⟨hschema, mapping, hmapping, rfl⟩ := hreads
    rw [bind_eq_ok_iff] at hchecked
    obtain ⟨mapping', hmapping', hchecked⟩ := hchecked
    obtain rfl := Except.ok.inj (hmapping.symm.trans hmapping')
    rw [hschema] at hchecked
    exact of_decide_eq_true (Except.ok.inj hchecked)
  exact ⟨hseed, hcreate, d, s, rows, all, hreads, hrows, hall, hrowTexts, hallTexts,
    hpart.mpr hlocal, htexts hlocal⟩

/-- The row of the book is written by itself and not in the creation where the book is a view. -/
theorem bookRow_not_in_creation :
    ((bookCommand .seed).generateWith bookReader bookFiles bookMapped).outcome =
        .ok (script .mysql [bookRow]) ∧
      ((bookCommand .create).generateWith bookReader bookFiles bookMapped).outcome =
        .ok (script .mysql bookView) ∧
      ¬ [bookRow].Sublist bookView :=
  ⟨generateWith_book.1.1, generateWith_book.1.2, by decide⟩

end Command

end SchemaPlan
