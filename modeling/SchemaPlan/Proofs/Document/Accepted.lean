import SchemaPlan.Proofs.Document.Reread
import SchemaPlan.Proofs.Schema.Built

/-!
# Entities that are read from documents

A reader asks for names and for what makes an entity what it is, and building checks the rest.  So
every entity of a schema that is read has what it takes to be written and read again.

* `accepted_of_readEntry` says so of one entry, `accepted_of_ofDoc` of a whole document.
* `texts?_eq_some_iff` says when the names of a schema are texts.
-/
namespace SchemaPlan.Document

/-! ## Reading -/

section

variable {fields : Fields} {key place : String} {table d value : Doc}

theorem not_isBlank_of_require (h : require fields key place = .ok value) : value.isBlank = false := by
  unfold require at h
  dsimp only at h
  split_ifs at h with hblank
  cases h
  simpa using hblank

/-- What is shown can be shown. -/
theorem isShown_of_shown {s : String} (h : d.shown = .ok s) : d.isShown = true :=
  (Doc.shown_eq_ok_iff.mp h).1

/-- What a column that is read says of itself, and of its table. -/
structure IsReadDraft (table : Doc) (draft : ColumnDraft Doc) : Prop where
  table : table.isShown = true
  name : draft.name.isBlank = false
  shown : draft.name.isShown = true
  type : draft.type.isBlank = false

theorem isReadDraft_of_readColumn {draft : ColumnDraft Doc} (h : readColumn table d = .ok draft) :
    IsReadDraft table draft := by
  unfold readColumn at h
  simp only [bind_eq_ok_iff] at h
  obtain ⟨owner, howner, fields, -, name, hname, shown, hshown, default, -, type, htype, size, -,
    scale, -, limits, -, h⟩ := h
  cases h
  exact ⟨isShown_of_shown howner, not_isBlank_of_require hname, isShown_of_shown hshown,
    not_isBlank_of_require htype⟩

theorem ne_nil_of_items {xs : List Doc} (h : items value = .ok xs) (htruthy : value.truthy = true) :
    xs ≠ [] := by
  rintro rfl
  cases value with
  | list ys =>
    cases h
    cases htruthy
  | text t =>
    simp only [items, Except.ok.injEq, List.map_eq_nil_iff, String.toList_eq_nil_iff] at h
    simp [Doc.truthy, h] at htruthy
  | mapping fs =>
    simp only [items, Except.ok.injEq, List.map_eq_nil_iff] at h
    simp [Doc.truthy, h] at htruthy
  | bytes b =>
    simp only [items, Except.ok.injEq, List.map_eq_nil_iff] at h
    simp [Doc.truthy, h] at htruthy
  | _ => cases h

/-- A key that is read is not empty. -/
theorem ne_nil_of_readPrimaryKey {key : Option (List Doc)} (h : readPrimaryKey fields = .ok key) :
    key ≠ some [] := by
  unfold readPrimaryKey at h
  dsimp only at h
  split_ifs at h with htruthy
  · obtain ⟨xs, hxs, rfl⟩ := map_eq_ok_iff.mp h
    exact fun hnil => ne_nil_of_items hxs htruthy (Option.some.inj hnil)
  · cases h
    nofun

theorem groupOf_ne_null (fields : Fields) : groupOf fields ≠ some .null := by
  unfold groupOf
  dsimp only
  split_ifs with hnull
  · nofun
  · intro h
    rw [Option.some.inj h] at hnull
    exact hnull rfl

/-- What a table that is read has. -/
theorem readTable_eq_ok {draft : EntityDraft} (h : readTable d place = .ok draft) :
    ∃ name group primaryKey columns, draft = .table name group primaryKey columns ∧
      name.isBlank = false ∧ group ≠ some .null ∧ primaryKey ≠ some [] ∧
        ∀ c ∈ columns, IsReadDraft name c := by
  unfold readTable at h
  simp only [bind_eq_ok_iff] at h
  obtain ⟨fields, -, name, hname, key, hkey, docs, -, columns, hcolumns, h⟩ := h
  cases h
  exact ⟨_, _, _, _, rfl, not_isBlank_of_require hname, groupOf_ne_null fields,
    ne_nil_of_readPrimaryKey hkey, forall_of_mapM hcolumns fun _ _ _ => isReadDraft_of_readColumn⟩

/-- What an index that is read has. -/
theorem readIndex_eq_ok {draft : EntityDraft} (h : readIndex d place = .ok draft) :
    ∃ i, draft = .index i ∧ IsReadable (.index i) := by
  unfold readIndex at h
  simp only [bind_eq_ok_iff] at h
  obtain ⟨fields, -, name, hname, table, htable, value, -, columns, -, h⟩ := h
  cases h
  exact ⟨_, rfl, not_isBlank_of_require hname, not_isBlank_of_require htable⟩

theorem named_of_readPair {p : KeyPair Doc} (h : readPair place d = .ok p) :
    p.column.isBlank = false ∧ p.foreignColumn.isBlank = false := by
  unfold readPair at h
  simp only [bind_eq_ok_iff] at h
  obtain ⟨fields, -, column, hcolumn, foreign, hforeign, h⟩ := h
  cases h
  exact ⟨not_isBlank_of_require hcolumn, not_isBlank_of_require hforeign⟩

/-- What a foreign key that is read has. -/
theorem readForeignKey_eq_ok {draft : EntityDraft} (h : readForeignKey d place = .ok draft) :
    ∃ k, draft = .foreignKey k ∧ IsReadable (.foreignKey k) := by
  unfold readForeignKey at h
  simp only [bind_eq_ok_iff] at h
  obtain ⟨fields, -, value, -, docs, -, columns, hcolumns, name, hname, table, htable, foreign, hforeign,
    h⟩ := h
  cases h
  exact ⟨_, rfl, not_isBlank_of_require hname, not_isBlank_of_require htable,
    not_isBlank_of_require hforeign, forall_of_mapM hcolumns fun _ _ _ => named_of_readPair⟩

/-- A file that is read has a name. -/
theorem sourceIsText_of_ofDoc {column : String} {kind : SourceKind} {source : SeedSource}
    (h : SeedSource.ofDoc column kind value = .ok source) (htext : ∀ b, source ≠ .file (.bytes b)) :
    SourceIsText source := by
  cases source with
  | literal content => trivial
  | system r => trivial
  | file content =>
    cases content with
    | bytes b => exact absurd rfl (htext b)
    | text s =>
      unfold SeedSource.ofDoc at h
      cases kind with
      | literal =>
        dsimp only at h
        split_ifs at h
        · cases h
        · split at h <;> cases h
      | system =>
        dsimp only at h
        split at h
        · split at h <;> cases h
        · cases h
      | file =>
        dsimp only at h
        split_ifs at h with htruthy
        split at h
        · next c hc =>
          cases h
          -- The content is the text of the value, which is true.
          cases value with
          | text t =>
            cases hc
            have hne : s ≠ "" := by simpa [Doc.truthy] using htruthy
            exact hne
          | bytes b => cases hc
          | _ => cases hc
        · cases h

/-- What a seed value that is read has, if it names its file by a text. -/
theorem isReadableSeed_of_readSeedColumn {c : SeedColumn Doc} (h : readSeedColumn table d = .ok c) :
    table.isShown = true ∧ ((∀ b, c.source ≠ .file (.bytes b)) → IsReadableSeed c) := by
  unfold readSeedColumn at h
  simp only [bind_eq_ok_iff] at h
  obtain ⟨owner, howner, fields, -, name, hname, h⟩ := h
  refine ⟨isShown_of_shown howner, fun htext => ?_⟩
  split at h
  · next kind hkind =>
    simp only [bind_eq_ok_iff] at h
    obtain ⟨value, -, source, hsource, h⟩ := h
    cases h
    rw [sourceOf, mapError_eq_ok_iff] at hsource
    exact ⟨not_isBlank_of_require hname, sourceIsText_of_ofDoc hsource htext⟩
  · cases h

/-- What a seed row that is read has. -/
theorem readSeed_eq_ok {draft : EntityDraft} (h : readSeed d place = .ok draft) :
    ∃ table columns keys updates, draft = .seed table columns keys updates ∧
      table.isBlank = false ∧
      ∀ c ∈ columns, table.isShown = true ∧ ((∀ b, c.source ≠ .file (.bytes b)) → IsReadableSeed c) := by
  unfold readSeed at h
  simp only [bind_eq_ok_iff] at h
  obtain ⟨fields, -, table, htable, value, -, docs, -, columns, hcolumns, keys, -, h⟩ := h
  cases h
  exact ⟨_, _, _, _, rfl, not_isBlank_of_require htable,
    forall_of_mapM hcolumns fun _ _ _ => isReadableSeed_of_readSeedColumn⟩

end

/-! ## Building -/

/-- Whether an entity passes the checks of its parts and its own, the names that a schema finds it by
among them. -/
def IsBuilt : Entity Doc → Prop
  | .table t => (∀ c ∈ t.columns, c.IsNormal) ∧
      Table.ofNamed t.name t.columns t.primaryKey t.group = .ok t ∧ t.name.isKey = true
  | .index i => i.table.isKey = true ∧ i.name.isKey = true
  | .foreignKey k => k.table.isKey = true ∧ k.name.isKey = true
  | .seed r => SeedRow.ofNamed r.table r.columns r.keys r.updates = .ok r ∧ r.table.isKey = true

/-- The seed values of an entity name their files by texts. -/
def NamesFilesByText {ν : Type} : Entity ν → Prop
  | .seed r => ∀ c ∈ r.columns, ∀ b, c.source ≠ .file (.bytes b)
  | _ => True

theorem checkKey_eq_ok_iff {name : Doc} : checkKey name = .ok () ↔ name.isKey = true := by
  unfold checkKey
  split_ifs with h
  · exact iff_of_true rfl h
  · exact iff_of_false nofun h

/-- A table has the parts that it is built from. -/
theorem table_of_ofNamed {name : Doc} {columns : List (Column Doc)} {primaryKey : Option (List Doc)}
    {group : Option Doc} {t : Table Doc} (h : Table.ofNamed name columns primaryKey group = .ok t) :
    t = ⟨name, columns, primaryKey, group⟩ :=
  (Table.buildWith_eq_ok_iff.mp (mapError_eq_ok_iff.mp h)).1

theorem row_of_ofNamed {table : Doc} {columns : List (SeedColumn Doc)} {keys : List Doc}
    {updates : Bool} {r : SeedRow Doc} (h : SeedRow.ofNamed table columns keys updates = .ok r) :
    r = ⟨table, columns, keys, updates⟩ := by
  unfold SeedRow.ofNamed at h
  split_ifs at h
  cases h
  rfl

/-- **What is read and built** is readable and built, if it names its files by texts. -/
theorem accepted_of_readEntry {position : Nat} {d : Doc} {draft : EntityDraft} {e : Entity Doc}
    (hread : readEntry position d = .ok draft) (hbuild : draft.build = .ok e)
    (hfiles : NamesFilesByText e) : IsReadable e ∧ IsBuilt e := by
  unfold readEntry at hread
  dsimp only at hread
  split at hread
  · obtain ⟨name, group, primaryKey, drafts, rfl, hname, hgroup, hkey, hdrafts⟩ :=
      readTable_eq_ok hread
    rw [EntityDraft.build] at hbuild
    simp only [bind_eq_ok_iff] at hbuild
    obtain ⟨columns, hcolumns, t, ht, _, hregistered, hbuild⟩ := hbuild
    cases hbuild
    have htable := table_of_ofNamed ht
    subst htable
    refine ⟨⟨hname, hgroup, hkey, ?_⟩, ?_, ht, checkKey_eq_ok_iff.mp hregistered⟩
    · refine forall_of_mapM hcolumns fun draft hdraft c hc => ?_
      obtain ⟨hcname, hctype⟩ := Column.parts_of_ofNamedDraft hc
      have hread := hdrafts draft hdraft
      exact ⟨hread.table, hcname ▸ hread.name, hcname ▸ hread.shown, hctype ▸ hread.type⟩
    · exact forall_of_mapM hcolumns fun _ _ _ => Column.isNormal_of_ofNamedDraft
  · obtain ⟨i, rfl, hi⟩ := readIndex_eq_ok hread
    rw [EntityDraft.build] at hbuild
    simp only [bind_eq_ok_iff] at hbuild
    obtain ⟨_, htable, _, hname, hbuild⟩ := hbuild
    cases hbuild
    exact ⟨hi, checkKey_eq_ok_iff.mp htable, checkKey_eq_ok_iff.mp hname⟩
  · obtain ⟨k, rfl, hk⟩ := readForeignKey_eq_ok hread
    rw [EntityDraft.build] at hbuild
    simp only [bind_eq_ok_iff] at hbuild
    obtain ⟨_, htable, _, hname, hbuild⟩ := hbuild
    cases hbuild
    exact ⟨hk, checkKey_eq_ok_iff.mp htable, checkKey_eq_ok_iff.mp hname⟩
  · obtain ⟨table, columns, keys, updates, rfl, htable, hcolumns⟩ := readSeed_eq_ok hread
    rw [EntityDraft.build] at hbuild
    simp only [bind_eq_ok_iff] at hbuild
    obtain ⟨r, hr, _, hregistered, hbuild⟩ := hbuild
    cases hbuild
    have hrow := row_of_ofNamed hr
    subst hrow
    exact ⟨⟨htable, fun c hc => ⟨(hcolumns c hc).1, (hcolumns c hc).2 (hfiles c hc)⟩⟩, hr,
      checkKey_eq_ok_iff.mp hregistered⟩
  · split_ifs at hread

/-- Every draft of a list of entries is read from one of them. -/
theorem exists_readEntry_of_readEntriesFrom {position : Nat} {docs : List Doc}
    {drafts : List EntityDraft} (h : readEntriesFrom position docs = .ok drafts) :
    ∀ draft ∈ drafts, ∃ n d, readEntry n d = .ok draft := by
  induction docs generalizing position drafts with
  | nil =>
    cases h
    exact fun draft hdraft => absurd hdraft List.not_mem_nil
  | cons d rest ih =>
    unfold readEntriesFrom at h
    simp only [bind_eq_ok_iff] at h
    obtain ⟨first, hfirst, others, hothers, h⟩ := h
    cases h
    exact List.forall_mem_cons.mpr ⟨⟨position, d, hfirst⟩, ih hothers⟩

theorem exists_readEntry_of_readEntries {d : Doc} {drafts : List EntityDraft}
    (h : readEntries d = .ok drafts) : ∀ draft ∈ drafts, ∃ n d, readEntry n d = .ok draft := by
  unfold readEntries at h
  split at h
  · cases h
    exact fun draft hdraft => absurd hdraft List.not_mem_nil
  · dsimp only at h
    split_ifs at h
    · split at h
      · exact exists_readEntry_of_readEntriesFrom h
      · cases h
    · cases h
      exact fun draft hdraft => absurd hdraft List.not_mem_nil
  · cases h

/-- The entities of a schema that is read are readable and built. -/
theorem accepted_of_ofDoc {d : Doc} {s : Schema Doc} (h : Schema.ofDoc d = .ok s)
    (hfiles : ∀ e ∈ s.entities, NamesFilesByText e) :
    ∀ e ∈ s.entities, IsReadable e ∧ IsBuilt e := by
  unfold Schema.ofDoc at h
  simp only [bind_eq_ok_iff] at h
  obtain ⟨drafts, hdrafts, entities, hentities, h⟩ := h
  cases h
  have hall : ∀ e ∈ entities, NamesFilesByText e → IsReadable e ∧ IsBuilt e := by
    refine forall_of_mapM hentities fun draft hdraft e he hfile => ?_
    obtain ⟨position, d, hread⟩ := exists_readEntry_of_readEntries hdrafts draft hdraft
    exact accepted_of_readEntry hread he hfile
  exact fun e he => hall e he (hfiles e he)

/-! ## Names that are texts -/

/-- A schema has texts for names, and these are the texts. -/
theorem texts?_eq_some_iff {s : Schema Doc} {t : Schema} :
    s.texts? = some t ↔
      (∀ e ∈ s.entities, (∀ name ∈ e.names, name.isText = true) ∧
        ∀ group, e.group? = some group → group.isText = true) ∧
      t = ⟨s.entities.map (Entity.mapNames Doc.display)⟩ := by
  unfold Schema.texts?
  simp only [List.all_eq_true, Bool.and_eq_true, Option.all_eq_true]
  split_ifs with hall
  · simp only [Option.some.injEq]
    exact ⟨fun ht => ⟨hall, ht.symm⟩, fun ht => ht.2.symm⟩
  · exact iff_of_false nofun fun h => hall h.1

end SchemaPlan.Document
