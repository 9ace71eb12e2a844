import SchemaPlan.Proofs.Document.Accepted
import SchemaPlan.Proofs.Schema.Equality

/-!
# Documents of schemas are read back

A schema that was read is written as a document from which an equal schema is read, with the same
entities in the same order, and that one is written as the same document.  Only a decimal default
may be spelled in another way: `1E+2` is written as `100`.  The one thing in the way are bytes in a
column of a seed row whose name cannot be shown: they are written in base 64, and reading that asks
for the text of the name.

* `Document.ofDoc_toDoc` says when a schema is read from the document of a schema, and which.
* `Document.texts?_respelled` says that it has texts for names if that schema does.
* `Document.roundTrip` puts reading, writing and equality together.
-/
namespace SchemaPlan

/-! ## Respelled entities -/

section Respelled

variable {ν : Type}

/-- The table with the defaults that are read from its document. -/
def Table.respelled (t : Table ν) : Table ν :=
  { t with columns := t.columns.map Column.respelled }

/-- The entity that is read from its document. -/
def Entity.respelled : Entity ν → Entity ν
  | .table t => .table t.respelled
  | e => e

/-- The schema that is read from its document. -/
def Schema.respelled (s : Schema ν) : Schema ν :=
  ⟨s.entities.map Entity.respelled⟩

/-- The decimal defaults of an entity are numbers. -/
def Document.HasNumbers : Entity ν → Prop
  | .table t => ∀ c ∈ t.columns, c.HasNumber
  | _ => True

/-- Respelling leaves the names as they are. -/
theorem Entity.names_respelled (e : Entity ν) : e.respelled.names = e.names := by
  cases e with
  | table t =>
    rw [respelled, Table.respelled, names, names, Table.names, Table.names, List.map_map]
    rfl
  | _ => rfl

/-- Respelling leaves the group as it is. -/
theorem Entity.group?_respelled (e : Entity ν) : e.respelled.group? = e.group? := by
  cases e <;> rfl

theorem Entity.mapNames_respelled {μ : Type} (f : ν → μ) (e : Entity ν) :
    e.respelled.mapNames f = (e.mapNames f).respelled := by
  cases e with
  | table t =>
    simp only [respelled, Table.respelled, mapNames, Table.mapNames, List.map_map]
    rfl
  | _ => rfl

end Respelled

namespace Document

/-! ## Building again -/

/-- A table with respelled defaults passes the checks that it passed. -/
theorem ofNamed_respelled {t : Table Doc}
    (h : Table.ofNamed t.name t.columns t.primaryKey t.group = .ok t) :
    Table.ofNamed t.name (t.columns.map Column.respelled) t.primaryKey t.group =
      .ok t.respelled := by
  unfold Table.ofNamed at h ⊢
  rw [mapError_eq_ok_iff, Table.buildWith_eq_ok_iff] at h ⊢
  have hnumbering : ((t.columns.map Column.respelled).filter fun c => c.autoIncrement) =
      (t.columns.filter fun c => c.autoIncrement).map Column.respelled := List.filter_map
  rw [hnumbering]
  refine ⟨rfl, h.2.imp (fun hnone => by rw [hnone]; rfl) ?_⟩
  rintro ⟨c, key, hone, hkey, honly⟩
  exact ⟨c.respelled, key, by rw [hone]; rfl, hkey, honly⟩

/-- What the document of an entity says is built into the respelled entity. -/
theorem build_draftOf {e : Entity Doc} (h : IsBuilt e) (hnumbers : HasNumbers e) :
    (draftOf e).build = .ok e.respelled := by
  cases e with
  | table t =>
    obtain ⟨hnormal, htable, hkey⟩ := h
    have hcolumns : (t.columns.map Column.draft).mapM Column.ofNamedDraft =
        .ok (t.columns.map Column.respelled) :=
      mapM_map_eq_ok fun c hc => Column.ofNamedDraft_draft (hnormal c hc) (hnumbers c hc)
    simp only [draftOf, EntityDraft.build, bind_eq_ok_iff]
    exact ⟨_, hcolumns, _, ofNamed_respelled htable, (), checkKey_eq_ok_iff.mpr hkey, rfl⟩
  | index i =>
    simp only [draftOf, EntityDraft.build, bind_eq_ok_iff]
    exact ⟨(), checkKey_eq_ok_iff.mpr h.1, (), checkKey_eq_ok_iff.mpr h.2, rfl⟩
  | foreignKey k =>
    simp only [draftOf, EntityDraft.build, bind_eq_ok_iff]
    exact ⟨(), checkKey_eq_ok_iff.mpr h.1, (), checkKey_eq_ok_iff.mpr h.2, rfl⟩
  | seed r =>
    simp only [draftOf, EntityDraft.build, bind_eq_ok_iff]
    exact ⟨r, h.1, (), checkKey_eq_ok_iff.mpr h.2, rfl⟩

/-- **A schema is read from its document**, with its decimal defaults respelled, exactly when its seed
values have places. -/
theorem ofDoc_toDoc {s r : Schema Doc} (h : ∀ e ∈ s.entities, IsReadable e ∧ IsBuilt e)
    (hnumbers : ∀ e ∈ s.entities, HasNumbers e) :
    Schema.ofDoc s.toDoc = .ok r ↔ (∀ e ∈ s.entities, HasPlaces e) ∧ r = s.respelled := by
  have hbuild : (s.entities.map draftOf).mapM EntityDraft.build =
      .ok (s.entities.map Entity.respelled) :=
    mapM_map_eq_ok fun e he => build_draftOf (h e he).2 (hnumbers e he)
  rw [Schema.ofDoc, bind_eq_ok_iff]
  simp only [bind_pure_eq_ok_iff, readEntries_toDoc fun e he => (h e he).1]
  constructor
  · rintro ⟨_, ⟨hplaces, rfl⟩, entities, hentities, rfl⟩
    rw [hbuild] at hentities
    exact ⟨hplaces, by rw [← Except.ok.inj hentities]; rfl⟩
  · rintro ⟨hplaces, rfl⟩
    exact ⟨_, ⟨hplaces, rfl⟩, _, hbuild, rfl⟩

/-- The schema that is read has texts for names if the one that was written has. -/
theorem texts?_respelled {s : Schema Doc} {t : Schema} (h : s.texts? = some t) :
    s.respelled.texts? = some t.respelled := by
  obtain ⟨htexts, rfl⟩ := texts?_eq_some_iff.mp h
  refine texts?_eq_some_iff.mpr ⟨?_, ?_⟩
  · refine List.forall_mem_map.mpr fun e he => ?_
    rw [e.names_respelled, e.group?_respelled]
    exact htexts e he
  · simp only [Schema.respelled, List.map_map]
    exact congrArg Schema.mk (List.map_congr_left fun e _ => (e.mapNames_respelled _).symm)

/-! ## Writing again -/

theorem defaultFields_respelled (default : Option Literal) :
    defaultFields (default.map Literal.respelled) = defaultFields default := by
  cases default with
  | none => rfl
  | some v =>
    cases v with
    | decimal x =>
      rw [Option.map_some, Literal.respelled, defaultFields, defaultFields, Decimal.toFixed_respelled]
    | _ => rfl

theorem ofColumn_respelled (c : Column Doc) : ofColumn c.respelled = ofColumn c := by
  rw [ofColumn, ofColumn, Column.respelled, defaultFields_respelled]

theorem ofEntity_respelled (e : Entity Doc) : ofEntity e.respelled = ofEntity e := by
  cases e with
  | table t =>
    have hcolumns : (t.columns.map Column.respelled).map ofColumn = t.columns.map ofColumn := by
      rw [List.map_map]
      exact List.map_congr_left fun c _ => ofColumn_respelled c
    rw [Entity.respelled, Table.respelled, ofEntity, ofEntity, hcolumns]
  | _ => rfl

/-- The document of a schema does not depend on the spelling of its defaults. -/
theorem toDoc_respelled (s : Schema Doc) : s.respelled.toDoc = s.toDoc := by
  have hentities : (s.entities.map Entity.respelled).map ofEntity = s.entities.map ofEntity := by
    rw [List.map_map]
    exact List.map_congr_left fun e _ => ofEntity_respelled e
  rw [Schema.toDoc, Schema.toDoc, Schema.respelled, hentities]

end Document

/-! ## Equality with what was written -/

/-- A literal is equal to the respelled one. -/
theorem Literal.same?_respelled {v : Literal} (h : ∀ x, v = .decimal x → x.isNan = false) :
    v.same? v.respelled = some true := by
  cases v with
  | decimal x => exact (same?_of_number rfl).mpr ⟨_, rfl, Decimal.sameValue?_respelled (h x rfl)⟩
  | int n =>
    exact (same?_of_number rfl).mpr ⟨_, rfl, Decimal.sameValue?_eq_true_iff.mpr ⟨rfl, rfl, rfl⟩⟩
  | text s => simp [respelled, same?]
  | bytes b => simp [respelled, same?]

section Agrees

variable {ν : Type}

/-- Columns that are equal in all fields, name and type being one and the same.  A type may be any
value of a document, also one that is not a number and so not equal to itself. -/
def Column.Agrees (a b : Column ν) : Prop :=
  a.plainFields = b.plainFields ∧ a.type = b.type ∧ sameDefault? a.default b.default = some true

/-- Entities that are equal in all fields. -/
inductive Entity.Agrees : Entity ν → Entity ν → Prop where
  | table {s t : Table ν} (name : s.name = t.name)
      (columns : List.Forall₂ Column.Agrees s.columns t.columns)
      (primaryKey : s.primaryKey = t.primaryKey) (group : s.group = t.group) :
      Agrees (.table s) (.table t)
  | index (i : Index ν) : Agrees (.index i) (.index i)
  | foreignKey (k : ForeignKey ν) : Agrees (.foreignKey k) (.foreignKey k)
  | seed (r : SeedRow ν) : Agrees (.seed r) (.seed r)

/-- Schemas with equal entities in the same order. -/
def Schema.Agrees (s t : Schema ν) : Prop :=
  List.Forall₂ Entity.Agrees s.entities t.entities

theorem Column.agrees_respelled {c : Column ν} (h : c.HasNumber) : c.Agrees c.respelled := by
  refine ⟨rfl, rfl, ?_⟩
  rw [Column.respelled]
  cases hdefault : c.default with
  | none => rfl
  | some v => exact Literal.same?_respelled fun x hx => h x (hx ▸ hdefault)

theorem Entity.agrees_respelled {e : Entity ν} (h : Document.HasNumbers e) :
    e.Agrees e.respelled := by
  cases e with
  | table t =>
    refine .table rfl ?_ rfl rfl
    rw [Table.respelled, List.forall₂_map_right_iff, List.forall₂_same]
    exact fun c hc => Column.agrees_respelled (h c hc)
  | index i => exact .index i
  | foreignKey k => exact .foreignKey k
  | seed r => exact .seed r

theorem Schema.agrees_respelled {s : Schema ν} (h : ∀ e ∈ s.entities, Document.HasNumbers e) :
    s.Agrees s.respelled := by
  rw [Schema.Agrees, Schema.respelled, List.forall₂_map_right_iff, List.forall₂_same]
  exact fun e he => Entity.agrees_respelled (h e he)

end Agrees

/-- The types of the columns of an entity are equal to themselves, as every type is that names no
value that is not a number. -/
def Entity.HasPlainTypes : Entity → Prop
  | .table t => ∀ c ∈ t.columns, c.type.same? c.type = some true
  | _ => True

theorem Entity.Agrees.same? {a b : Entity} (h : a.Agrees b) (htypes : a.HasPlainTypes) :
    a.same? b = some true := by
  cases h with
  | @table s t hname hcolumns hkey hgroup =>
    refine Table.same?_iff.mpr ⟨hname, ?_, hkey, hgroup⟩
    refine ((List.forall₂_and_left _ _).mpr ⟨htypes, hcolumns⟩).imp ?_
    rintro c d ⟨hc, hplain, htype, hdefault⟩
    exact Column.same?_iff.mpr ⟨hplain, htype ▸ hc, hdefault⟩
  | index i => simp [Entity.same?]
  | foreignKey k => simp [Entity.same?]
  | seed r => simp [Entity.same?]

/-- Schemas that agree are equal if types that are the same are. -/
theorem Schema.Agrees.same? {s t : Schema} (h : s.Agrees t)
    (htypes : ∀ e ∈ s.entities, e.HasPlainTypes) : s.same? t = some true :=
  Schema.same?_iff.mpr <|
    ((List.forall₂_and_left _ _).mpr ⟨htypes, h⟩).imp fun _ _ ⟨he, hef⟩ => hef.same? he

namespace Document

theorem hasNumbers_mapNames {ν μ : Type} {f : ν → μ} {e : Entity ν} (h : HasNumbers e) :
    HasNumbers (e.mapNames f) := by
  cases e with
  | table t => exact List.forall_mem_map.mpr fun c hc => h c hc
  | _ => trivial

/-- **The round trip**: from the document of what was read a schema is read unless the name of a
column of a seed row with bytes cannot be shown.  It agrees with what was written and is written as
the same document; and where the names are texts, they still are, and the two schemas are equal if
types that are the same are. -/
theorem roundTrip {d : Doc} {s : Schema Doc} (h : Schema.ofDoc d = .ok s)
    (hfiles : ∀ e ∈ s.entities, NamesFilesByText e) (hnumbers : ∀ e ∈ s.entities, HasNumbers e) :
    ((∃ r, Schema.ofDoc s.toDoc = .ok r) ↔ ∀ e ∈ s.entities, HasPlaces e) ∧
      ∀ r, Schema.ofDoc s.toDoc = .ok r → s.Agrees r ∧ r.toDoc = s.toDoc ∧
        ∀ t, s.texts? = some t → ∃ u, r.texts? = some u ∧
          ((∀ e ∈ t.entities, e.HasPlainTypes) → t.same? u = some true) := by
  have hread (r : Schema Doc) := ofDoc_toDoc (r := r) (accepted_of_ofDoc h hfiles) hnumbers
  constructor
  · constructor
    · rintro ⟨r, hr⟩
      exact ((hread r).mp hr).1
    · intro hplaces
      exact ⟨_, (hread _).mpr ⟨hplaces, rfl⟩⟩
  · intro r hr
    obtain ⟨-, rfl⟩ := (hread r).mp hr
    refine ⟨Schema.agrees_respelled hnumbers, toDoc_respelled s, fun t ht => ?_⟩
    refine ⟨_, texts?_respelled ht, Schema.Agrees.same? (Schema.agrees_respelled ?_)⟩
    obtain ⟨-, rfl⟩ := texts?_eq_some_iff.mp ht
    exact List.forall_mem_map.mpr fun e he => hasNumbers_mapNames (hnumbers e he)

/-- A table with one decimal column that has this default. -/
def amountDoc (default : String) : Doc :=
  .mapping [(some "entities", .list [.mapping [(some "kind", .text "table"), (some "name", .text "t"),
    (some "columns", .list [.mapping [(some "name", .text "c"), (some "type", .text "decimal"),
      (some "default", .text default)]])]])]

/-- The schema with a table of one decimal column that has this default. -/
def amountSchema (default : Decimal) : Schema :=
  ⟨[.table ⟨"t", [⟨"c", .base .decimal, 0, 0, true, some (.decimal default), none, false, false, none⟩],
    none, none⟩]⟩

/-- The schema as it is read from its document. -/
def readAmount (default : Decimal) : Schema Doc :=
  ⟨(amountSchema default).entities.map (Entity.mapNames .text)⟩

/-- The default `1E+2` is written as `100` and read again as an equal one. -/
theorem roundTrip_of_hundred :
    Schema.ofDoc (amountDoc "1E+2") = .ok (readAmount (.finite false 1 2)) ∧
      (readAmount (.finite false 1 2)).texts? = some (amountSchema (.finite false 1 2)) ∧
      (readAmount (.finite false 1 2)).toDoc = amountDoc "100" ∧
      ∃ r u, Schema.ofDoc (amountDoc "100") = .ok r ∧ r.toDoc = amountDoc "100" ∧
        r.texts? = some u ∧ (amountSchema (.finite false 1 2)).same? u = some true := by
  have hread : Schema.ofDoc (amountDoc "1E+2") = .ok (readAmount (.finite false 1 2)) := rfl
  have hnames : (readAmount (.finite false 1 2)).texts? =
      some (amountSchema (.finite false 1 2)) := rfl
  have hwritten : (readAmount (.finite false 1 2)).toDoc = amountDoc "100" := rfl
  have hfiles : ∀ e ∈ (readAmount (.finite false 1 2)).entities, NamesFilesByText e :=
    List.forall_mem_singleton.mpr trivial
  have hnumbers : ∀ e ∈ (readAmount (.finite false 1 2)).entities, HasNumbers e := by
    simp [readAmount, amountSchema, HasNumbers, Entity.mapNames, Table.mapNames, Column.rename,
      Column.HasNumber, Decimal.isNan]
  have hplaces : ∀ e ∈ (readAmount (.finite false 1 2)).entities, HasPlaces e :=
    List.forall_mem_singleton.mpr trivial
  have htypes : ∀ e ∈ (amountSchema (.finite false 1 2)).entities, e.HasPlainTypes := by
    simp [amountSchema, Entity.HasPlainTypes, ColumnType.same?]
  obtain ⟨hwhen, hround⟩ := roundTrip hread hfiles hnumbers
  obtain ⟨r, hr⟩ := hwhen.mpr hplaces
  obtain ⟨-, hdoc, hequal⟩ := hround r hr
  obtain ⟨u, hu, hsame⟩ := hequal _ hnames
  exact ⟨hread, hnames, hwritten, r, u, hwritten ▸ hr, hdoc.trans hwritten, hu, hsame htypes⟩

/-- A row with bytes in a column whose name is this value. -/
def bytesDoc (name : Doc) : Doc :=
  .mapping [(some "entities", .list [.mapping [(some "kind", .text "insert"),
    (some "table", .text "t"), (some "columns", .list [.mapping [(some "name", name),
      (some "value", .bytes [104, 105])]])]])]

/-- The schema of `bytesDoc`. -/
def bytesSchema (name : Doc) : Schema Doc :=
  ⟨[.seed ⟨.text "t", [⟨name, .literal (some (.bytes [104, 105])), false⟩], [], false⟩]⟩

theorem not_hasPlaces_bytesSchema {name : Doc} (h : name.isShown = false) :
    ¬ ∀ e ∈ (bytesSchema name).entities, HasPlaces e := by
  intro hplaces
  have hrow := List.forall_mem_singleton.mp (List.forall_mem_singleton.mp hplaces)
  exact Bool.false_ne_true (h.symm.trans (hrow _ rfl))

/-- Bytes in a column that is called by the integer 10^4300 are read, but not from the document that
they are written as. -/
theorem bytes_of_vast_name_not_reread :
    Schema.ofDoc (bytesDoc (.int Numeral.unwritten)) = .ok (bytesSchema (.int Numeral.unwritten)) ∧
      (∀ e ∈ (bytesSchema (.int Numeral.unwritten)).entities, NamesFilesByText e ∧ HasNumbers e) ∧
      ∀ r, Schema.ofDoc (bytesSchema (.int Numeral.unwritten)).toDoc ≠ .ok r := by
  have hread : Schema.ofDoc (bytesDoc (.int Numeral.unwritten)) =
      .ok (bytesSchema (.int Numeral.unwritten)) := rfl
  have hfiles : ∀ e ∈ (bytesSchema (.int Numeral.unwritten)).entities,
      NamesFilesByText e ∧ HasNumbers e :=
    List.forall_mem_singleton.mpr ⟨List.forall_mem_singleton.mpr nofun, trivial⟩
  have hhidden : (Doc.int Numeral.unwritten).isShown = false := by
    simp only [Doc.isShown, Doc.checkDigits, Doc.check, Numeral.isWritable_unwritten]
    rfl
  refine ⟨hread, hfiles, fun r hr => not_hasPlaces_bytesSchema hhidden ?_⟩
  exact ((ofDoc_toDoc (accepted_of_ofDoc hread fun e he => (hfiles e he).1)
    fun e he => (hfiles e he).2).mp hr).1

end Document

end SchemaPlan
