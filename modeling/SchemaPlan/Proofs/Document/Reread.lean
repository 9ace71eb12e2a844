import SchemaPlan.Proofs.Column.Normal
import SchemaPlan.Proofs.Document.Fields
import SchemaPlan.Proofs.Text.Base64

/-!
# Written entities are read again

The document of an entity holds all that a reader asks for, and what is left out of it is what a
reader assumes.  So reading it gives a draft with the parts of the entity.

* `readColumn_ofColumn` and `readSeedColumn_ofSeedColumn` read the parts of entities.
* `readEntry_ofEntity` reads an entity, `readEntries_toDoc` the entities of a schema.
-/
namespace SchemaPlan.Document

/-! ## Columns -/

/-- The fields of the document of a column, with those that are left out. -/
def columnFields (c : Column Doc) : List (String × Option Doc) :=
  [("name", some c.name), ("type", some c.type.toDoc),
    ("size", if c.size != 0 then some (.int c.size) else none),
    ("scale", if c.scale != 0 then some (.int c.scale) else none),
    ("null", if !c.nullable then some (.bool false) else none),
    ("default", c.default.map fun
      | .bytes b => encoded b
      | v => v.written),
    ("defaultIsBase64Encoded", match c.default with
      | some (.bytes _) => some (.bool true)
      | _ => none),
    ("sysVarDefault", c.systemDefault.map fun r => .text r.spelling),
    ("autoIncrement", if c.autoIncrement then some (.bool true) else none),
    ("useTimeZone", if c.withTimeZone then some (.bool true) else none),
    ("enumValues", c.enumValues.map texts)]

theorem ofColumn_eq (c : Column Doc) : ofColumn c = .mapping (Fields.optional (columnFields c)) := by
  have hdefault (v : Option Literal) (rest : List (String × Option Doc)) :
      Fields.optional (("default", v.map fun
        | .bytes b => encoded b
        | v => v.written) :: ("defaultIsBase64Encoded", match v with
        | some (.bytes _) => some (.bool true)
        | _ => none) :: rest) = defaultFields v ++ Fields.optional rest := by
    cases v with
    | none => rfl
    | some v => cases v <;> rfl
  rw [columnFields, Fields.optional_cons_some, Fields.optional_cons_some, Fields.optional_cons_if,
    Fields.optional_cons_if, Fields.optional_cons_if, hdefault, ofColumn]
  cases c.systemDefault <;> cases c.enumValues <;>
    simp [Fields.optional_cons_some, Fields.optional_cons_none, Fields.optional_cons_if]

/-- Bytes in base 64 are decoded. -/
theorem decoded_encoded (b : List UInt8) (place : String) :
    decoded (encoded b) place = .ok (.bytes b) := by
  simp [decoded, encoded, Except.toOption, Text.ofBase64?_toBase64]

/-- A field that must be there is found when it is not blank. -/
theorem require_eq_ok {fields : Fields} {key : String} {value : Doc}
    (h : fields.lookup (some key) = some value) (hblank : value.isBlank = false) (place : String) :
    require fields key place = .ok value := by
  simp [require, Fields.value, h, hblank]

/-- An integer that is left out when it is zero is read. -/
theorem count_eq_ok {fields : Fields} {key : String} {n : Int}
    (h : fields.lookup (some key) = if n != 0 then some (.int n) else none) :
    count fields key = .ok n := by
  by_cases hn : n = 0
  · simp [count, Fields.value, h, hn, Doc.truthy]
  · simp [count, Fields.value, h, hn, Doc.truthy, Doc.toInt, Except.mapError]

/-- A switch that is left out when it is off is read. -/
theorem switch_of_if {fields : Fields} {key : String} {b : Bool}
    (h : fields.lookup (some key) = if b then some (.bool true) else none) :
    switch fields key false = b := by
  cases b <;> simp [switch, h, Doc.truthy]

/-- The default of a column is read from its document as it is stated there. -/
theorem writtenDefault_ofColumn (c : Column Doc) (place : String) :
    writtenDefault (Fields.optional (columnFields c)) place = .ok c.draft.default := by
  have hdefault : (Fields.optional (columnFields c)).value "default" = (c.default.map fun
      | .bytes b => encoded b
      | v => v.written).getD .null := by
    simp [Fields.value, columnFields]
  have hflag : (Fields.optional (columnFields c)).value "defaultIsBase64Encoded" =
      (match c.default with
      | some (.bytes _) => some (.bool true)
      | _ => none : Option Doc).getD .null := by
    simp [Fields.value, columnFields]
  rw [writtenDefault, hdefault, hflag, Column.draft]
  cases c.default with
  | none => rfl
  | some v =>
    cases v with
    | bytes b => exact decoded_encoded b _
    | _ => rfl

/-- The values that a column is limited to are read from its document. -/
theorem readLimits_ofColumn (c : Column Doc) :
    readLimits (Fields.optional (columnFields c)) = .ok c.enumValues := by
  have hlimits : (Fields.optional (columnFields c)).value "enumValues" =
      (c.enumValues.map texts).getD .null := by
    simp [Fields.value, columnFields]
  rw [readLimits, hlimits]
  cases c.enumValues with
  | none => rfl
  | some values =>
    have hall : (values.map Doc.text).mapM Doc.shown = .ok (values.map id) :=
      mapM_map_eq_ok fun _ _ => rfl
    rw [List.map_id] at hall
    exact map_eq_ok_iff.mpr ⟨values, hall, rfl⟩

/-- A column is read from its document, if it and its table have names that can be shown. -/
theorem readColumn_ofColumn {table : Doc} (htable : table.isShown = true) {c : Column Doc}
    (hname : c.name.isBlank = false) (hshown : c.name.isShown = true)
    (htype : c.type.toDoc.isBlank = false) : readColumn table (ofColumn c) = .ok c.draft := by
  have hkeys : ∀ key ∈ (columnFields c).map Prod.fst, key ∈ columnKeys := by
    simp [columnFields, columnKeys]
  have howner : table.shown = .ok table.display := Doc.shown_eq_ok_iff.mpr ⟨htable, rfl⟩
  have hown : c.name.shown = .ok c.name.display := Doc.shown_eq_ok_iff.mpr ⟨hshown, rfl⟩
  have hdefault := writtenDefault_ofColumn c
  have hlimits := readLimits_ofColumn c
  rw [ofColumn_eq, readColumn, columnEntries_optional, howner]
  simp only [bind, Except.bind, fieldsOf_optional hkeys]
  generalize hfields : Fields.optional (columnFields c) = fields at hdefault hlimits
  have hnameField : fields.lookup (some "name") = some c.name := by
    simp [← hfields, columnFields]
  have htypeField : fields.lookup (some "type") = some c.type.toDoc := by
    simp [← hfields, columnFields]
  have hsize : count fields "size" = .ok c.size := count_eq_ok (by simp [← hfields, columnFields])
  have hscale : count fields "scale" = .ok c.scale := count_eq_ok (by simp [← hfields, columnFields])
  have hnull : switch fields "null" true = c.nullable := by
    cases hc : c.nullable <;> simp [switch, ← hfields, columnFields, hc, Doc.truthy]
  have hsystem : fields.value "sysVarDefault" = c.draft.systemDefault := by
    simp [Fields.value, ← hfields, columnFields, Column.draft]
  have hauto : switch fields "autoIncrement" false = c.autoIncrement :=
    switch_of_if (by simp [← hfields, columnFields])
  have hzone : switch fields "useTimeZone" false = c.withTimeZone :=
    switch_of_if (by simp [← hfields, columnFields])
  simp only [require_eq_ok hnameField hname, hown, require_eq_ok htypeField htype, hdefault, hlimits,
    hsize, hscale, hnull, hsystem, hauto, hzone]
  rfl

/-! ## Entities -/

theorem itemsIfAny_list (xs : List Doc) : itemsIfAny (.list xs) = .ok xs := by
  cases xs <;> rfl

/-- The fields of the document of a table. -/
def tableFields (t : Table Doc) : List (String × Option Doc) :=
  [("kind", some (.text "table")), ("name", some t.name), ("group", t.group),
    ("primaryKey", t.primaryKey.map .list), ("columns", some (.list (t.columns.map ofColumn)))]

theorem ofEntity_table (t : Table Doc) :
    ofEntity (.table t) = .mapping (Fields.optional (tableFields t)) := by
  cases hgroup : t.group <;> cases hkey : t.primaryKey <;>
    simp [ofEntity, tableFields, hgroup, hkey, Fields.optional_cons_some, Fields.optional_cons_none]

/-- What is needed of a column to read it from its document. -/
structure IsReadableColumn (c : Column Doc) : Prop where
  name : c.name.isBlank = false
  shown : c.name.isShown = true
  type : c.type.toDoc.isBlank = false

/-- A table is read from its document. -/
theorem readTable_ofEntity {t : Table Doc} (hname : t.name.isBlank = false)
    (hgroup : t.group ≠ some .null) (hkey : t.primaryKey ≠ some [])
    (hcolumns : ∀ c ∈ t.columns, t.name.isShown = true ∧ IsReadableColumn c) (place : String) :
    readTable (ofEntity (.table t)) place =
      .ok (.table t.name t.group t.primaryKey (t.columns.map Column.draft)) := by
  have hkeys : ∀ key ∈ (tableFields t).map Prod.fst,
      key ∈ ["kind", "name", "group", "primaryKey", "columns"] := by
    simp [tableFields]
  rw [ofEntity_table, readTable, fieldsOf_optional hkeys]
  generalize hfields : Fields.optional (tableFields t) = fields
  have hnameField : fields.lookup (some "name") = some t.name := by
    simp [← hfields, tableFields]
  have hgroupField : groupOf fields = t.group := by
    have hvalue : fields.value "group" = t.group.getD .null := by
      simp [Fields.value, ← hfields, tableFields]
    rw [groupOf, hvalue]
    cases hg : t.group with
    | none => rfl
    | some group => cases group <;> first | rfl | exact absurd hg hgroup
  have hprimary : readPrimaryKey fields = .ok t.primaryKey := by
    have hvalue : fields.value "primaryKey" = (t.primaryKey.map .list).getD .null := by
      simp [Fields.value, ← hfields, tableFields]
    rw [readPrimaryKey, hvalue]
    cases hk : t.primaryKey with
    | none => rfl
    | some key =>
      have hne : key ≠ [] := by
        rintro rfl
        exact hkey hk
      simp [Doc.truthy, hne, items, Except.map]
  have hlist : fields.value "columns" = .list (t.columns.map ofColumn) := by
    simp [Fields.value, ← hfields, tableFields]
  have hread : (t.columns.map ofColumn).mapM (readColumn t.name) =
      .ok (t.columns.map Column.draft) :=
    mapM_map_eq_ok fun c hc =>
      readColumn_ofColumn (hcolumns c hc).1 (hcolumns c hc).2.name (hcolumns c hc).2.shown
        (hcolumns c hc).2.type
  simp only [bind, Except.bind, pure, Except.pure, require_eq_ok hnameField hname, hgroupField,
    hprimary, hlist, itemsIfAny_list, hread]

/-- The fields of the document of an index. -/
def indexFields (i : Index Doc) : List (String × Option Doc) :=
  [("kind", some (.text "index")), ("name", some i.name), ("table", some i.table),
    ("columns", some (.list i.columns)), ("unique", if i.unique then some (.bool true) else none),
    ("fulltext", if i.fulltext then some (.bool true) else none)]

theorem ofEntity_index (i : Index Doc) :
    ofEntity (.index i) = .mapping (Fields.optional (indexFields i)) := by
  simp [ofEntity, indexFields, Fields.optional_cons_some, Fields.optional_cons_if]

/-- An index is read from its document. -/
theorem readIndex_ofEntity {i : Index Doc} (hname : i.name.isBlank = false)
    (htable : i.table.isBlank = false) (place : String) : readIndex (ofEntity (.index i)) place = .ok (.index i) := by
  have hkeys : ∀ key ∈ (indexFields i).map Prod.fst,
      key ∈ ["kind", "name", "table", "columns", "unique", "fulltext"] := by
    simp [indexFields]
  rw [ofEntity_index, readIndex, fieldsOf_optional hkeys]
  generalize hfields : Fields.optional (indexFields i) = fields
  have hnameField : fields.lookup (some "name") = some i.name := by
    simp [← hfields, indexFields]
  have htableField : fields.lookup (some "table") = some i.table := by
    simp [← hfields, indexFields]
  have hcolumns : fields.lookup (some "columns") = some (.list i.columns) := by
    simp [← hfields, indexFields]
  have hunique : switch fields "unique" false = i.unique :=
    switch_of_if (by simp [← hfields, indexFields])
  have hfulltext : switch fields "fulltext" false = i.fulltext :=
    switch_of_if (by simp [← hfields, indexFields])
  simp only [bind, Except.bind, pure, Except.pure, require_eq_ok hnameField hname,
    require_eq_ok htableField htable, require_eq_ok hcolumns rfl, items, hunique, hfulltext]

/-- A pair of columns is read from its document. -/
theorem readPair_ofPair {p : KeyPair Doc} (hcolumn : p.column.isBlank = false)
    (hforeign : p.foreignColumn.isBlank = false) (place : String) : readPair place (ofPair p) = .ok p := by
  have hpair : ofPair p = .mapping (Fields.optional
      [("local", some p.column), ("foreign", some p.foreignColumn)]) := rfl
  rw [hpair, readPair, fieldsOf_optional (by simp)]
  simp only [bind, Except.bind, pure, Except.pure]
  have hcolumnField : (Fields.optional [("local", some p.column),
      ("foreign", some p.foreignColumn)]).lookup (some "local") = some p.column := by simp
  have hforeignField : (Fields.optional [("local", some p.column),
      ("foreign", some p.foreignColumn)]).lookup (some "foreign") = some p.foreignColumn := by simp
  rw [require_eq_ok hcolumnField hcolumn]
  dsimp only
  rw [require_eq_ok hforeignField hforeign]

/-- The fields of the document of a foreign key. -/
def foreignKeyFields (k : ForeignKey Doc) : List (String × Option Doc) :=
  [("kind", some (.text "foreignKey")), ("name", some k.name), ("table", some k.table),
    ("foreignTable", some k.foreignTable), ("columns", some (.list (k.columns.map ofPair)))]

/-- A foreign key is read from its document. -/
theorem readForeignKey_ofEntity {k : ForeignKey Doc} (hname : k.name.isBlank = false)
    (htable : k.table.isBlank = false) (hforeign : k.foreignTable.isBlank = false)
    (hcolumns : ∀ p ∈ k.columns, p.column.isBlank = false ∧ p.foreignColumn.isBlank = false)
    (place : String) :
    readForeignKey (ofEntity (.foreignKey k)) place = .ok (.foreignKey k) := by
  have hkeys : ∀ key ∈ (foreignKeyFields k).map Prod.fst,
      key ∈ ["kind", "name", "table", "foreignTable", "columns"] := by
    simp [foreignKeyFields]
  have hentity : ofEntity (.foreignKey k) = .mapping (Fields.optional (foreignKeyFields k)) := rfl
  rw [hentity, readForeignKey, fieldsOf_optional hkeys]
  generalize hfields : Fields.optional (foreignKeyFields k) = fields
  have hnameField : fields.lookup (some "name") = some k.name := by
    simp [← hfields, foreignKeyFields]
  have htableField : fields.lookup (some "table") = some k.table := by
    simp [← hfields, foreignKeyFields]
  have hforeignField : fields.lookup (some "foreignTable") = some k.foreignTable := by
    simp [← hfields, foreignKeyFields]
  have hcolumnsField : fields.lookup (some "columns") = some (.list (k.columns.map ofPair)) := by
    simp [← hfields, foreignKeyFields]
  have hread : (k.columns.map ofPair).mapM (readPair place) = .ok (k.columns.map id) :=
    mapM_map_eq_ok fun p hp => readPair_ofPair (hcolumns p hp).1 (hcolumns p hp).2 place
  rw [List.map_id] at hread
  simp only [bind, Except.bind, pure, Except.pure, require_eq_ok hcolumnsField rfl, items, hread,
    require_eq_ok hnameField hname, require_eq_ok htableField htable,
    require_eq_ok hforeignField hforeign]

/-! ## Seed rows -/

/-- Whether the source of a seed value is written so that it can be read: a file has a name that is
text. -/
def SourceIsText : SeedSource → Prop
  | .file (.text s) => s ≠ ""
  | .file (.bytes _) => False
  | _ => True

/-- The content of a source in a document. -/
def sourceDoc (source : SeedSource) : Doc :=
  match source.content with
  | none => .null
  | some (.text s) => .text s
  | some (.bytes b) => encoded b

/-- The field of a kind of source. -/
def sourceField (source : SeedSource) (kind : SourceKind) : Option Doc :=
  if source.kind = kind then some (sourceDoc source) else none

/-- The field that says that the content is in base 64. -/
def encodedField (source : SeedSource) : Option Doc :=
  match source.content with
  | some (.bytes _) => some (.bool true)
  | _ => none

/-- The fields of the document of a seed value. -/
def seedColumnFields (c : SeedColumn Doc) : List (String × Option Doc) :=
  [("name", some c.name), ("value", sourceField c.source .literal),
    ("filename", sourceField c.source .file), ("sysVarValue", sourceField c.source .system),
    ("valueIsBase64Encoded", encodedField c.source),
    ("quoted", if c.quoted then some (.bool true) else none)]

theorem ofSeedColumn_eq (c : SeedColumn Doc) :
    ofSeedColumn c = .mapping (Fields.optional (seedColumnFields c)) := by
  have hsource (source : SeedSource) (rest : List (String × Option Doc)) :
      Fields.optional (("value", sourceField source .literal) ::
        ("filename", sourceField source .file) :: ("sysVarValue", sourceField source .system) ::
        ("valueIsBase64Encoded", encodedField source) :: rest) =
      sourceFields source ++ Fields.optional rest := by
    cases source with
    | literal value =>
      cases value with
      | none => rfl
      | some content => cases content <;> rfl
    | file content => cases content <;> rfl
    | system r => rfl
  rw [ofSeedColumn, seedColumnFields, Fields.optional_cons_some, hsource, Fields.optional_cons_if,
    Fields.optional_nil, List.append_nil, List.append_assoc]

/-- The one kind of source that a document names. -/
theorem sourceKinds_ofSeedColumn (c : SeedColumn Doc) :
    sourceKinds (Fields.optional (seedColumnFields c)) = [c.source.kind] := by
  cases hkind : c.source.kind <;>
    simp [sourceKinds, SourceKind.all, SourceKind.name, Fields.has, seedColumnFields, sourceField, hkind]

theorem value_kind (c : SeedColumn Doc) :
    (Fields.optional (seedColumnFields c)).value c.source.kind.name = sourceDoc c.source := by
  cases hkind : c.source.kind <;>
    simp [SourceKind.name, Fields.value, seedColumnFields, sourceField, hkind]

/-- The content of a source as a value that is not encoded. -/
def contentDoc : Option Content → Doc
  | none => .null
  | some (.text s) => .text s
  | some (.bytes b) => .bytes b

/-- A source is read from its content. -/
theorem sourceOf_contentDoc (column : Doc) {source : SeedSource} (h : SourceIsText source) :
    sourceOf column source.kind (contentDoc source.content) = .ok source := by
  rw [sourceOf, mapError_eq_ok_iff]
  cases source with
  | literal value =>
    cases value with
    | none => rfl
    | some content => cases content <;> rfl
  | file content =>
    cases content with
    | text s =>
      have hne : s ≠ "" := h
      simp [SeedSource.kind, SeedSource.content, contentDoc, SeedSource.ofDoc, Doc.truthy,
        SeedSource.content?, hne]
    | bytes b => cases h
  | system r =>
    simp [SeedSource.kind, SeedSource.content, contentDoc, SeedSource.ofDoc,
      SystemReference.spelled?_spelling]

/-- Bytes are written in base 64, and reading them names the place where they are not in base 64
after all; so the name of their column must be one that can be shown. -/
def HasPlace (c : SeedColumn Doc) : Prop :=
  ∀ b, c.source = .literal (some (.bytes b)) → c.name.isShown = true

/-- The content of a source is read from its document. -/
theorem writtenValue_ofSeedColumn {c : SeedColumn Doc} (h : SourceIsText c.source) (owner : String)
    (value : Doc) :
    writtenValue (Fields.optional (seedColumnFields c)) c.source.kind owner c.name = .ok value ↔
      HasPlace c ∧ value = contentDoc c.source.content := by
  have hflag : (Fields.optional (seedColumnFields c)).value "valueIsBase64Encoded" =
      (encodedField c.source).getD .null := by
    simp [Fields.value, seedColumnFields]
  rw [writtenValue, value_kind, hflag]
  obtain ⟨name, source, quoted⟩ := c
  have hother (hnot : ∀ b, source ≠ .literal (some (.bytes b))) :
      HasPlace ⟨name, source, quoted⟩ := fun b hb => absurd hb (hnot b)
  cases source with
  | literal content =>
    cases content with
    | none => exact ⟨fun hv => ⟨hother nofun, (Except.ok.inj hv).symm⟩, fun hv => by rw [hv.2]; rfl⟩
    | some content =>
      cases content with
      | text s =>
        exact ⟨fun hv => ⟨hother nofun, (Except.ok.inj hv).symm⟩, fun hv => by rw [hv.2]; rfl⟩
      | bytes b =>
        have hplace : HasPlace ⟨name, .literal (some (.bytes b)), quoted⟩ ↔ name.isShown = true :=
          ⟨fun hc => hc b rfl, fun hc _ _ => hc⟩
        rw [hplace]
        -- the name is asked for its text, which is then not needed
        refine (bind_eq_ok_iff name.shown _ value).trans ?_
        simp only [Doc.shown_eq_ok_iff]
        constructor
        · rintro ⟨_, ⟨hshown, -⟩, hv⟩
          exact ⟨hshown, (Except.ok.inj ((decoded_encoded b _).symm.trans hv)).symm⟩
        · rintro ⟨hshown, rfl⟩
          exact ⟨_, ⟨hshown, rfl⟩, decoded_encoded b _⟩
  | file content =>
    cases content with
    | text s =>
      exact ⟨fun hv => ⟨hother nofun, (Except.ok.inj hv).symm⟩, fun hv => by rw [hv.2]; rfl⟩
    | bytes b => cases h
  | system r =>
    exact ⟨fun hv => ⟨hother nofun, (Except.ok.inj hv).symm⟩, fun hv => by rw [hv.2]; rfl⟩

/-- What is needed of a seed value to read it from its document, but for its place. -/
structure IsReadableSeed (c : SeedColumn Doc) : Prop where
  name : c.name.isBlank = false
  source : SourceIsText c.source

/-- A seed value is read from its document exactly when it has a place. -/
theorem readSeedColumn_ofSeedColumn {table : Doc} (htable : table.isShown = true) {c : SeedColumn Doc}
    (h : IsReadableSeed c) (read : SeedColumn Doc) :
    readSeedColumn table (ofSeedColumn c) = .ok read ↔ HasPlace c ∧ read = c := by
  have hkeys : ∀ key ∈ (seedColumnFields c).map Prod.fst,
      key ∈ ["name", "quoted", "valueIsBase64Encoded"] ++ SourceKind.all.map SourceKind.name := by
    simp [seedColumnFields, SourceKind.all, SourceKind.name]
  have howner : table.shown = .ok table.display := Doc.shown_eq_ok_iff.mpr ⟨htable, rfl⟩
  have hkinds := sourceKinds_ofSeedColumn c
  have hvalue := writtenValue_ofSeedColumn h.source table.display
  rw [ofSeedColumn_eq, readSeedColumn, howner]
  simp only [bind, Except.bind, fieldsOf_optional hkeys]
  generalize hfields : Fields.optional (seedColumnFields c) = fields at hkinds hvalue
  have hnameField : fields.lookup (some "name") = some c.name := by
    simp [← hfields, seedColumnFields]
  have hquoted : switch fields "quoted" false = c.quoted :=
    switch_of_if (by simp [← hfields, seedColumnFields])
  rw [require_eq_ok hnameField h.name, hkinds, hquoted]
  refine (bind_eq_ok_iff _ _ _).trans ?_
  simp only [hvalue]
  constructor
  · rintro ⟨_, ⟨hplace, rfl⟩, hread⟩
    rw [sourceOf_contentDoc _ h.source] at hread
    exact ⟨hplace, (Except.ok.inj hread).symm⟩
  · rintro ⟨hplace, rfl⟩
    refine ⟨_, ⟨hplace, rfl⟩, ?_⟩
    rw [sourceOf_contentDoc _ h.source]
    rfl

/-- The fields of the document of a seed row. -/
def seedFields (r : SeedRow Doc) : List (String × Option Doc) :=
  [("kind", some (.text "insert")), ("table", some r.table),
    ("keyColumns", if !r.keys.isEmpty then some (.list r.keys) else none),
    ("updateIfExists", if r.updates then some (.bool true) else none),
    ("columns", some (.list (r.columns.map ofSeedColumn)))]

theorem ofEntity_seed (r : SeedRow Doc) :
    ofEntity (.seed r) = .mapping (Fields.optional (seedFields r)) := by
  rw [seedFields, Fields.optional_cons_some, Fields.optional_cons_some, Fields.optional_cons_if,
    Fields.optional_cons_if, Fields.optional_cons_some, Fields.optional_nil, List.append_nil, ofEntity]
  simp only [List.append_assoc]

/-- A seed row is read from its document exactly when its values have places. -/
theorem readSeed_ofEntity {r : SeedRow Doc} (htable : r.table.isBlank = false)
    (hcolumns : ∀ c ∈ r.columns, r.table.isShown = true ∧ IsReadableSeed c) (place : String)
    (draft : EntityDraft) :
    readSeed (ofEntity (.seed r)) place = .ok draft ↔
      (∀ c ∈ r.columns, HasPlace c) ∧ draft = .seed r.table r.columns r.keys r.updates := by
  have hkeys : ∀ key ∈ (seedFields r).map Prod.fst,
      key ∈ ["kind", "table", "keyColumns", "updateIfExists", "columns"] := by
    simp [seedFields]
  rw [ofEntity_seed, readSeed, fieldsOf_optional hkeys]
  generalize hfields : Fields.optional (seedFields r) = fields
  have htableField : fields.lookup (some "table") = some r.table := by
    simp [← hfields, seedFields]
  have hcolumnsField : fields.lookup (some "columns") = some (.list (r.columns.map ofSeedColumn)) := by
    simp [← hfields, seedFields]
  have hupdates : switch fields "updateIfExists" false = r.updates :=
    switch_of_if (by simp [← hfields, seedFields])
  have hkeyField : itemsIfAny (fields.value "keyColumns") = .ok r.keys := by
    cases hk : r.keys with
    | nil => simp [Fields.value, ← hfields, seedFields, hk, itemsIfAny, Doc.truthy]
    | cons key rest => simp [Fields.value, ← hfields, seedFields, hk, itemsIfAny_list]
  have hread (columns : List (SeedColumn Doc)) :
      (r.columns.map ofSeedColumn).mapM (readSeedColumn r.table) = .ok columns ↔
        (∀ c ∈ r.columns, HasPlace c) ∧ columns = r.columns.map id :=
    mapM_map_eq_ok_iff fun c hc => readSeedColumn_ofSeedColumn (hcolumns c hc).1 (hcolumns c hc).2
  rw [List.map_id] at hread
  simp only [bind, Except.bind, require_eq_ok htableField htable, require_eq_ok hcolumnsField rfl,
    items]
  refine (bind_eq_ok_iff _ _ _).trans ?_
  simp only [hread, hkeyField, hupdates]
  constructor
  · rintro ⟨_, ⟨hplaces, rfl⟩, hdraft⟩
    exact ⟨hplaces, (Except.ok.inj hdraft).symm⟩
  · rintro ⟨hplaces, rfl⟩
    exact ⟨_, ⟨hplaces, rfl⟩, rfl⟩

/-! ## Entries -/

/-- What is needed of an entity to read it from its document, but for the places of its values: its
names are there and can be shown where its parts are read, and so is what a reader asks for
besides. -/
def IsReadable : Entity Doc → Prop
  | .table t => t.name.isBlank = false ∧ t.group ≠ some .null ∧ t.primaryKey ≠ some [] ∧
      ∀ c ∈ t.columns, t.name.isShown = true ∧ IsReadableColumn c
  | .index i => i.name.isBlank = false ∧ i.table.isBlank = false
  | .foreignKey k => k.name.isBlank = false ∧ k.table.isBlank = false ∧
      k.foreignTable.isBlank = false ∧
      ∀ p ∈ k.columns, p.column.isBlank = false ∧ p.foreignColumn.isBlank = false
  | .seed r => r.table.isBlank = false ∧
      ∀ c ∈ r.columns, r.table.isShown = true ∧ IsReadableSeed c

/-- The seed values of an entity have places. -/
def HasPlaces : Entity Doc → Prop
  | .seed r => ∀ c ∈ r.columns, HasPlace c
  | _ => True

/-- What the document of an entity says about it. -/
def draftOf : Entity Doc → EntityDraft
  | .table t => .table t.name t.group t.primaryKey (t.columns.map Column.draft)
  | .index i => .index i
  | .foreignKey k => .foreignKey k
  | .seed r => .seed r.table r.columns r.keys r.updates

/-- **A readable entity is read from its document** exactly when its values have places, at whatever
position it stands. -/
theorem readEntry_ofEntity {e : Entity Doc} (h : IsReadable e) (position : Nat)
    (draft : EntityDraft) :
    readEntry position (ofEntity e) = .ok draft ↔ HasPlaces e ∧ draft = draftOf e := by
  cases e with
  | table t =>
    obtain ⟨hname, hgroup, hkey, hcolumns⟩ := h
    exact eq_ok_iff_of_eq_ok (readTable_ofEntity hname hgroup hkey hcolumns _) draft
  | index i => exact eq_ok_iff_of_eq_ok (readIndex_ofEntity h.1 h.2 _) draft
  | foreignKey k =>
    exact eq_ok_iff_of_eq_ok (readForeignKey_ofEntity h.1 h.2.1 h.2.2.1 h.2.2.2 _) draft
  | seed r => exact readSeed_ofEntity h.1 h.2 _ draft

/-- Readable entities are read from their documents in order. -/
theorem readEntriesFrom_ofEntity {entities : List (Entity Doc)} (h : ∀ e ∈ entities, IsReadable e)
    (position : Nat) (drafts : List EntityDraft) :
    readEntriesFrom position (entities.map ofEntity) = .ok drafts ↔
      (∀ e ∈ entities, HasPlaces e) ∧ drafts = entities.map draftOf := by
  induction entities generalizing position drafts with
  | nil => simp [readEntriesFrom, eq_comm]
  | cons e rest ih =>
    obtain ⟨he, hrest⟩ := List.forall_mem_cons.mp h
    rw [List.map_cons, readEntriesFrom, bind_eq_ok_iff, List.forall_mem_cons, List.map_cons]
    simp only [bind_pure_eq_ok_iff, readEntry_ofEntity he, ih hrest]
    constructor
    · rintro ⟨_, ⟨hplaces, rfl⟩, _, ⟨hplacesRest, rfl⟩, rfl⟩
      exact ⟨⟨hplaces, hplacesRest⟩, rfl⟩
    · rintro ⟨⟨hplaces, hplacesRest⟩, rfl⟩
      exact ⟨_, ⟨hplaces, rfl⟩, _, ⟨hplacesRest, rfl⟩, rfl⟩

/-- The entries of the document of a schema are read. -/
theorem readEntries_toDoc {s : Schema Doc} (h : ∀ e ∈ s.entities, IsReadable e)
    (drafts : List EntityDraft) :
    readEntries s.toDoc = .ok drafts ↔
      (∀ e ∈ s.entities, HasPlaces e) ∧ drafts = s.entities.map draftOf := by
  have hentries : Fields.value (field "entities" (.list (s.entities.map ofEntity))) "entities" =
      .list (s.entities.map ofEntity) := rfl
  rw [Schema.toDoc, readEntries, hentries]
  cases hs : s.entities with
  | nil => simp [Doc.truthy, eq_comm]
  | cons e rest =>
    rw [hs] at h
    exact readEntriesFrom_ofEntity h 1 drafts

end SchemaPlan.Document
