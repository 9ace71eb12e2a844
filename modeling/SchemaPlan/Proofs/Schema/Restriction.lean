import SchemaPlan.Proofs.Noted
import SchemaPlan.Proofs.Schema.Parts
import SchemaPlan.Session

/-!
# Restricting and qualifying a schema

A restriction keeps the entities of some tables, a qualification writes the database of a foreign
table in front of it.  The database may depend on the group of the foreign table, which a
restriction loses together with the table.

* `Schema.qualifyKey_restrictTo_iff` says when a restricted schema qualifies a foreign key as the
  whole one does.
* `Schema.qualify_restrictTo_iff` says when restricting and qualifying commute.
* `Command.readSchema_eq` says what is read from the file of a schema.
-/
namespace SchemaPlan

/-- The rule of a table does not ask for its group. -/
theorem DatabaseMap.resolve_none_cases (m : DatabaseMap) (group table : Option String) :
    m.resolve none table = m.resolve group table ∨ m.resolve none table = none := by
  unfold resolve
  cases table.bind m.tables.get? with
  | some database => exact Or.inl rfl
  | none => exact Or.inr rfl

namespace Schema

variable (s : Schema) (m : DatabaseMap) (names : List String)

/-! ## One key -/

/-- The tables that a restriction keeps. -/
theorem table?_restrictTo (name : String) :
    (s.restrictTo names).table? name = if name ∈ names then s.table? name else none := by
  split_ifs with hname
  · exact (s.agreesOn_ofTables names.contains (by simpa using hname)).table.symm
  · rw [Option.eq_none_iff_forall_ne_some]
    intro t ht
    obtain ⟨rfl, hmem⟩ := (s.restrictTo names).table?_eq_some ht
    exact hname (by simpa [Entity.tableName] using List.of_mem_filter hmem)

/-- A table is in another database for its group and not for itself. -/
def LivesAwayByGroup (table : String) : Prop :=
  m.resolve none (some table) = none ∧
    (m.resolve ((s.table? table).bind Table.group) (some table)).isSome

/-- A name with a database in front of it is another name. -/
theorem qualified_ne (database table : String) : database ++ "." ++ table ≠ table := by
  intro h
  have hlength := congrArg String.length h
  simp [String.length_append] at hlength

/-- A restricted schema qualifies a key as the whole one does, unless its foreign table lives in
another database for its group and is not kept. -/
theorem qualifyKey_restrictTo_iff (k : ForeignKey) :
    (s.restrictTo names).qualifyKey m k = s.qualifyKey m k ↔
      (s.LivesAwayByGroup m k.foreignTable → k.foreignTable ∈ names) := by
  unfold qualifyKey LivesAwayByGroup
  rw [table?_restrictTo]
  split_ifs with hname
  · exact iff_of_true rfl fun _ => hname
  · rw [Option.bind_none]
    rcases m.resolve_none_cases ((s.table? k.foreignTable).bind Table.group)
      (some k.foreignTable) with hsame | hnone
    · rw [hsame]
      refine iff_of_true rfl fun ⟨hnone, hsome⟩ => ?_
      rw [hnone] at hsome
      cases hsome
    · rw [hnone]
      cases m.resolve ((s.table? k.foreignTable).bind Table.group) (some k.foreignTable) with
      | none => exact iff_of_true rfl fun h => by cases h.2
      | some database =>
        refine iff_of_false (fun h => ?_) fun h => hname (h ⟨rfl, rfl⟩)
        exact qualified_ne database k.foreignTable (congrArg ForeignKey.foreignTable h).symm

/-! ## All keys -/

/-- Each key that is kept has a foreign table that is kept or does not live in another database for
its group alone. -/
def KeepsDatabases : Prop :=
  ∀ k ∈ s.declaredKeys, k.table ∈ names → s.LivesAwayByGroup m k.foreignTable →
    k.foreignTable ∈ names

instance (table : String) : Decidable (s.LivesAwayByGroup m table) :=
  inferInstanceAs (Decidable (_ ∧ _))

instance : Decidable (s.KeepsDatabases m names) :=
  inferInstanceAs (Decidable (∀ k ∈ s.declaredKeys, _ → _ → _))

/-- An entity with its foreign table qualified. -/
def qualifyEntity : Entity → Entity
  | .foreignKey k => .foreignKey (s.qualifyKey m k)
  | other => other

theorem qualify_eq : s.qualify m = ⟨s.entities.map (s.qualifyEntity m)⟩ :=
  rfl

/-- Qualifying an entity leaves it with its table. -/
theorem tableName_qualifyEntity (e : Entity) :
    (s.qualifyEntity m e).tableName = e.tableName := by
  cases e with
  | foreignKey k =>
    show (s.qualifyKey m k).table = k.table
    unfold qualifyKey
    split <;> rfl
  | table t => rfl
  | index i => rfl
  | seed r => rfl

/-- **Restricting and qualifying commute** exactly when the databases are kept. -/
theorem qualify_restrictTo_iff :
    (s.restrictTo names).qualify m = (s.qualify m).restrictTo names ↔ s.KeepsDatabases m names := by
  have hkept : (s.qualify m).restrictTo names =
      ⟨((s.restrictTo names).entities).map (s.qualifyEntity m)⟩ := by
    rw [qualify_eq, restrictTo, restrictTo, List.filter_map]
    congr 2
    refine List.filter_congr fun e _ => ?_
    rw [Function.comp_apply, tableName_qualifyEntity]
  rw [hkept, qualify_eq, Schema.mk.injEq, List.map_inj_left]
  constructor
  · intro h k hk htable
    have hmem : Entity.foreignKey k ∈ (s.restrictTo names).entities :=
      List.mem_filter.mpr ⟨s.mem_declaredKeys.mp hk, by simpa [Entity.tableName] using htable⟩
    exact (s.qualifyKey_restrictTo_iff m names k).mp (Entity.foreignKey.inj (h _ hmem))
  · intro h e he
    obtain ⟨hmem, htable⟩ := List.mem_filter.mp he
    cases e with
    | foreignKey k =>
      have hkeeps := h k (s.mem_declaredKeys.mpr hmem) (by simpa [Entity.tableName] using htable)
      exact congrArg Entity.foreignKey ((s.qualifyKey_restrictTo_iff m names k).mpr hkeeps)
    | table t => rfl
    | index i => rfl
    | seed r => rfl

end Schema

/-! ## Reading a schema -/

/-- A schema with foreign tables qualified, if there is a map. -/
def qualifyBy (mapping : Option DatabaseMap) (s : Schema) : Schema :=
  match mapping with
  | some m => s.qualify m
  | none => s

/-- A schema restricted to the tables of the settings, if they name any. -/
def Settings.restrict (settings : Settings) (s : Schema) : Schema :=
  if settings.tables.isEmpty then s else s.restrictTo settings.tables

/-- The settings without a restriction. -/
def Settings.unrestricted (settings : Settings) : Settings :=
  { settings with tables := [] }

/-- What is read from a file is restricted first and qualified then. -/
theorem Command.readSchema_eq (o : Outside) (tree : FileTree) (settings : Settings)
    (name : String) :
    Command.readSchema o tree settings (some name) = (do
      let whole ← Command.readWhole o tree name
      let mapping ← settings.mapping
      return qualifyBy mapping (settings.restrict whole)) := by
  refine bind_congr fun whole => bind_congr fun mapping => ?_
  cases mapping <;> rfl

/-- What a restricted run reads is the restriction of what an unrestricted one reads, exactly when
the databases are kept. -/
theorem Command.readSchema_restricted_iff (o : Outside) (tree : FileTree) (settings : Settings)
    (file : Option String) :
    Command.readSchema o tree settings file =
        (Command.readSchema o tree settings.unrestricted file).map settings.restrict ↔
      ∀ name whole m, file = some name → Command.readWhole o tree name = .ok whole →
        settings.mapping = .ok (some m) →
          settings.tables = [] ∨ whole.KeepsDatabases m settings.tables := by
  cases file with
  | none => exact iff_of_true rfl nofun
  | some name =>
    have hmapping : settings.unrestricted.mapping = settings.mapping := rfl
    rw [Command.readSchema_eq, Command.readSchema_eq, hmapping]
    cases hread : Command.readWhole o tree name with
    | error e =>
      refine iff_of_true rfl ?_
      rintro _ _ _ ⟨⟩ hwhole
      rw [hread] at hwhole
      cases hwhole
    | ok whole =>
      cases hmap : settings.mapping with
      | error e => exact iff_of_true rfl fun _ _ _ _ _ h => by cases h
      | ok mapping =>
        cases mapping with
        | none => exact iff_of_true rfl fun _ _ _ _ _ h => by cases h
        | some m =>
          have hkeeps : (settings.restrict whole).qualify m = settings.restrict (whole.qualify m) ↔
              settings.tables = [] ∨ whole.KeepsDatabases m settings.tables := by
            unfold Settings.restrict
            by_cases htables : settings.tables = []
            · simp [htables]
            · rw [if_neg (by simpa using htables), if_neg (by simpa using htables),
                or_iff_right htables]
              exact whole.qualify_restrictTo_iff m settings.tables
          constructor
          · rintro h _ _ _ ⟨⟩ hwhole ⟨⟩
            rw [hread] at hwhole
            cases hwhole
            exact hkeeps.mp (Except.ok.inj h)
          · intro h
            exact congrArg Except.ok (hkeeps.mpr (h name whole m rfl hread rfl))

/-- **The databases of foreign tables do not depend on a restriction** exactly when the foreign
table of each key that is kept is kept with it, or does not live in another database for its group
alone.  So it is with restricting and qualifying a schema, and so with what is read from its
file. -/
theorem restriction_keeps_databases_iff (s : Schema) (m : DatabaseMap) (names : List String)
    (o : Outside) (tree : FileTree) (settings : Settings) (file : Option String) :
    ((s.restrictTo names).qualify m = (s.qualify m).restrictTo names ↔ s.KeepsDatabases m names) ∧
    (Command.readSchema o tree settings file =
        (Command.readSchema o tree settings.unrestricted file).map settings.restrict ↔
      ∀ name whole m, file = some name → Command.readWhole o tree name = .ok whole →
        settings.mapping = .ok (some m) →
          settings.tables = [] ∨ whole.KeepsDatabases m settings.tables) :=
  ⟨s.qualify_restrictTo_iff m names, Command.readSchema_restricted_iff o tree settings file⟩

/-! ## A foreign table that a restriction loses -/

/-- A table that refers to another one, which has a group. -/
def referral : Schema :=
  ⟨[.table ⟨"a", [], none, none⟩, .foreignKey ⟨"f", "a", "b", [⟨"x", "y"⟩]⟩,
    .table ⟨"b", [], none, some "g"⟩]⟩

/-- A rule for the group of `referral`, with another one for its table. -/
def referralMap (rules : List (String × String)) : DatabaseMap :=
  ⟨⟨rules⟩, ⟨[("g", "db")]⟩, ["db"]⟩

/-- Where the foreign table has a rule of its own the key refers to its database, restricted or
not. -/
theorem referral_keeps_database :
    (referral.restrictTo ["a"]).qualify (referralMap [("b", "db")]) =
        (referral.qualify (referralMap [("b", "db")])).restrictTo ["a"] ∧
      ((referral.restrictTo ["a"]).qualify (referralMap [("b", "db")])).declaredKeys =
        [⟨"f", "a", "db.b", [⟨"x", "y"⟩]⟩] :=
  ⟨(restriction_keeps_databases_iff referral (referralMap [("b", "db")]) ["a"]
    ⟨fun _ => .error .beyond, fun _ _ => pure "", false⟩ .empty
    ⟨.mysql, "b:db", "", none, ⟨false, false, false⟩, defaultBound, ["a"]⟩ none).1.mpr (by decide),
    by decide⟩

/-- Where its group has the rule the restricted schema loses the database. -/
theorem referral_loses_database :
    ((referral.restrictTo ["a"]).qualify (referralMap [])).declaredKeys =
        [⟨"f", "a", "b", [⟨"x", "y"⟩]⟩] ∧
      ((referral.qualify (referralMap [])).restrictTo ["a"]).declaredKeys =
        [⟨"f", "a", "db.b", [⟨"x", "y"⟩]⟩] ∧
      (referral.restrictTo ["a"]).qualify (referralMap []) ≠
        (referral.qualify (referralMap [])).restrictTo ["a"] := by
  have hrestricted : ((referral.restrictTo ["a"]).qualify (referralMap [])).declaredKeys =
      [⟨"f", "a", "b", [⟨"x", "y"⟩]⟩] := by decide
  have hwhole : ((referral.qualify (referralMap [])).restrictTo ["a"]).declaredKeys =
      [⟨"f", "a", "db.b", [⟨"x", "y"⟩]⟩] := by decide
  refine ⟨hrestricted, hwhole, fun h => ?_⟩
  rw [h, hwhole] at hrestricted
  exact absurd hrestricted (by decide)

end SchemaPlan
