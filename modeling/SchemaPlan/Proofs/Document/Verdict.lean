import SchemaPlan.Proofs.Document.Readers

/-!
# Which documents are rejected properly

Both stages of reading a document are guarded by what its fields ask of their values.  An ordinary
document that fits gives a schema or is rejected; a document that does not fit gives no schema, and is
either rejected for something else in front of what does not fit, or not properly rejected at all.

* `ColumnDraft.guarded_ofDraft` is about building columns, `guarded_build` about building entities:
  what building asks of a draft it asks of the fields that the draft is read from.
* `guarded_ofDoc` puts both stages together.
-/
namespace SchemaPlan

open SchemaPlan.Problem (IsReading IsInvariant IsRejection)

/-! ## Building columns -/

namespace ColumnDraft

variable {d : ColumnDraft} {R Q : Prop}

/-- What building a column asks of its draft. -/
structure IsBuildable (d : ColumnDraft) : Prop where
  symbol : d.systemDefault.IsSymbol
  zero : d.default.isNull = true → d.isFree = false → d.type.IsKey
  number : ∀ t, d.columnType = .base t → t.isInteger = true → d.default.IsBounded

theorem isKey_columnType : d.columnType.isKey = d.type.isKey := by
  rw [ColumnType.isKey, columnType, ColumnType.toDoc_ofDoc]

theorem guarded_checkShape : Guarded IsInvariant d.checkShape R True := by
  unfold checkShape
  split_ifs
  · exact .rejection (.invariant _)
  · exact .rejection (.invariant _)
  · exact .rejection (.invariant _)
  · exact .ok () trivial

theorem guarded_readSystemDefault (h : R → d.systemDefault.IsSymbol) :
    Guarded IsInvariant d.readSystemDefault R d.systemDefault.IsSymbol := by
  unfold readSystemDefault
  split_ifs with hnull
  · exact .ok none (Doc.isSymbol_of_isNull hnull)
  · exact .rejection (.invariant _)
  · cases hsymbol : d.systemDefault with
    | null =>
      rw [hsymbol] at hnull
      exact absurd rfl hnull
    | text s =>
      dsimp only
      split
      · exact .ok _ trivial
      · exact .rejection (.invariant _)
    | bytes b => exact .rejection (.invariant _)
    | _ =>
      rw [hsymbol] at h
      exact .fault h

theorem guarded_zeroDefault (h : R → d.type.IsKey) :
    Guarded IsInvariant d.zeroDefault R d.type.IsKey := by
  unfold Doc.IsKey at h ⊢
  rw [← isKey_columnType] at h ⊢
  unfold zeroDefault
  split
  · next h => exact .ok _ (by rw [h]; rfl)
  · next h => exact .ok _ (by rw [h]; rfl)
  · next t _ _ h => exact .ok _ (by rw [h]; rfl)
  · next label hlabel =>
    rw [hlabel] at h ⊢
    split_ifs with hkey
    · exact .ok _ hkey
    · exact .fault fun hR => hkey (h hR)

section

variable (hdefault : R → d.default.IsOrdinary) (htype : R → d.type.IsOrdinary)

include hdefault

theorem guarded_plainDefault {zeros : List String} :
    Guarded IsInvariant (d.plainDefault zeros) R True := by
  unfold plainDefault
  split
  · exact .ok _ trivial
  · exact (Guarded.shown hdefault).map _

include htype

theorem guarded_notNumeric {α : Type} :
    Guarded IsInvariant (.error d.notNumeric : Except Problem α) R Q :=
  (Guarded.error_worded (.invariant _) htype).worded hdefault

theorem guarded_namedDefault
    (h : R → ∀ t, d.columnType = .base t → t.isInteger = true → d.default.IsBounded) :
    Guarded IsInvariant d.namedDefault R
      (∀ t, d.columnType = .base t → t.isInteger = true → d.default.IsBounded) := by
  unfold namedDefault
  split
  · next hdecimal =>
    have hnone : ∀ t, d.columnType = .base t → t.isInteger = true → d.default.IsBounded := by
      rintro t ht hinteger
      cases hdecimal.symm.trans ht
      cases hinteger
    split
    · exact .ok _ hnone
    · exact guarded_notNumeric hdefault htype
  · next t _ hbase =>
    split_ifs with hinteger
    · split
      · next n hn => exact .ok _ fun _ _ _ => by rw [Doc.IsBounded, hn]; exact nofun
      · next hn => exact .fault fun hR => h hR t hbase hinteger hn
      · exact guarded_notNumeric hdefault htype
    · refine (guarded_plainDefault hdefault).mono fun _ u hu hinteger' => ?_
      cases hbase.symm.trans hu
      exact absurd hinteger' hinteger
  · next label hlabel =>
    have hnone : ∀ t, d.columnType = .base t → t.isInteger = true → d.default.IsBounded :=
      fun t ht => by cases hlabel.symm.trans ht
    split_ifs
    · exact (guarded_plainDefault hdefault).mono fun _ => hnone
    · exact guarded_notNumeric hdefault htype

theorem guarded_normalDefault (hsymbol : d.systemDefault.IsSymbol) (h : R → d.IsBuildable) :
    Guarded IsInvariant d.normalDefault R d.IsBuildable := by
  unfold normalDefault
  split_ifs with hnull hfree
  · refine .ok none ⟨hsymbol, fun _ h => ?_, fun _ _ _ => Doc.isBounded_of_isNull hnull⟩
    rw [hfree] at h
    cases h
  · refine ((guarded_zeroDefault fun hR => (h hR).zero hnull (Bool.eq_false_iff.mpr hfree)).mono
      fun hkey => ?_).map some
    exact ⟨hsymbol, fun _ _ => hkey, fun _ _ _ => Doc.isBounded_of_isNull hnull⟩
  · refine ((guarded_namedDefault hdefault htype fun hR => (h hR).number).mono
      fun hnumber => ?_).map some
    exact ⟨hsymbol, fun h => absurd h hnull, hnumber⟩

end

theorem guarded_checkListed {default : Option Literal} :
    Guarded IsInvariant (d.checkListed default) R True := by
  unfold checkListed
  split
  · split_ifs
    · exact .rejection (.invariant _)
    · exact .ok () trivial
  · split_ifs
    · exact .rejection (.invariant _)
    · exact .ok () trivial
  · exact .ok () trivial

theorem guarded_ofDraft (hdefault : R → d.default.IsOrdinary) (htype : R → d.type.IsOrdinary)
    (h : R → d.IsBuildable) : Guarded IsInvariant (Column.ofDraft d) R d.IsBuildable := by
  unfold Column.ofDraft
  refine .bind guarded_checkShape fun _ _ _ => ?_
  refine .bind (guarded_readSystemDefault fun hR => (h hR).symbol) fun reference _ hsymbol => ?_
  refine .bind (guarded_normalDefault hdefault htype hsymbol h) fun default _ hbuildable => ?_
  exact .bind guarded_checkListed fun _ _ _ => .ok _ hbuildable

theorem isFree_eq_false_iff :
    d.isFree = false ↔ d.nullable = false ∧ d.autoIncrement = false ∧
      d.systemDefault.isNull = true := by
  simp [isFree, and_assoc]

end ColumnDraft

namespace Document

open SchemaPlan.Doc

section

variable {d table : Doc} {fields : Fields} {place : String} {R : Prop}

theorem of_writtenDefault {default : Doc} (h : writtenDefault fields place = .ok default) :
    default.isNull = (fields.value "default").isNull ∧
      (default.IsBounded ↔ ((fields.value "defaultIsBase64Encoded").truthy = false →
        (fields.value "default").IsBounded)) := by
  unfold writtenDefault at h
  dsimp only at h
  split_ifs at h with hencoded
  · unfold decoded at h
    rw [Bool.and_eq_true, Bool.not_eq_true'] at hencoded
    split at h
    · cases h
      refine ⟨hencoded.1.symm, iff_of_true (isBounded_bytes _) fun hplain => ?_⟩
      rw [hencoded.2] at hplain
      cases hplain
    · cases h
  · cases h
    refine ⟨rfl, fun h _ => h, fun h => ?_⟩
    cases hnull : (fields.value "default").isNull with
    | true => exact isBounded_of_isNull hnull
    | false =>
      refine h (Bool.eq_false_iff.mpr fun hflag => hencoded ?_)
      rw [hnull, hflag]
      rfl

theorem isOrdinary_of_writtenDefault {default : Doc}
    (h : writtenDefault fields place = .ok default) (hfields : (Doc.mapping fields).IsOrdinary) :
    default.IsOrdinary := by
  unfold writtenDefault at h
  dsimp only at h
  split_ifs at h
  · unfold decoded at h
    split at h
    · cases h
      exact .bytes _
    · cases h
  · cases h
    exact hfields.value "default"

/-- What building asks of the draft of a column it asks of the fields that it is read from. -/
theorem isBuildable_iff_of_readColumn {draft : ColumnDraft Doc}
    (h : readColumn table d = .ok draft) (name : String) :
    ∃ fields, columnEntries d = .mapping fields ∧
      ((draft.rename name).IsBuildable ↔ ColumnBuilds fields) := by
  unfold readColumn at h
  simp only [bind_eq_ok_iff] at h
  obtain ⟨owner, -, fields, hfields, column, -, shown, -, default, hdefault, type, htype, size, -,
    scale, -, limits, -, h⟩ := h
  cases h
  obtain ⟨rfl, -⟩ := value_of_require htype
  obtain ⟨hnull, hbounded⟩ := of_writtenDefault hdefault
  refine ⟨fields, eq_mapping_of_fieldsOf hfields, fun h => ?_, fun h => ?_⟩
  · refine ⟨h.symbol, fun hdefaultNull hn ha hs => ?_, fun t ht hinteger => ?_⟩
    · exact h.zero (hnull.trans hdefaultNull) (ColumnDraft.isFree_eq_false_iff.mpr ⟨hn, ha, hs⟩)
    · exact hbounded.mp (h.number t ht hinteger)
  · refine ⟨h.symbol, fun hdefaultNull hfree => ?_, fun t ht hinteger => ?_⟩
    · obtain ⟨hn, ha, hs⟩ := ColumnDraft.isFree_eq_false_iff.mp hfree
      exact h.zero (hnull.symm.trans hdefaultNull) hn ha hs
    · exact hbounded.mpr (h.number t ht hinteger)

/-- The draft of an ordinary column has ordinary parts. -/
theorem isOrdinary_of_readColumn {draft : ColumnDraft Doc} (h : readColumn table d = .ok draft)
    (hd : d.IsOrdinary) :
    draft.name.IsOrdinary ∧ draft.default.IsOrdinary ∧ draft.type.IsOrdinary := by
  unfold readColumn at h
  simp only [bind_eq_ok_iff] at h
  obtain ⟨owner, -, fields, hfields, column, hcolumn, shown, -, default, hdefault, type, htype, size,
    -, scale, -, limits, -, h⟩ := h
  cases h
  have hordinary := hd.columnEntries
  rw [eq_mapping_of_fieldsOf hfields] at hordinary
  obtain ⟨rfl, -⟩ := value_of_require hcolumn
  obtain ⟨rfl, -⟩ := value_of_require htype
  exact ⟨hordinary.value "name", isOrdinary_of_writtenDefault hdefault hordinary,
    hordinary.value "type"⟩

theorem guarded_column {draft : ColumnDraft Doc} (h : readColumn table d = .ok draft)
    (hd : R → d.IsOrdinary) (hfits : R → (columnEntries d).IfMapping ColumnFits) :
    Guarded IsInvariant (Column.ofNamedDraft draft) R
      ((columnEntries d).IfMapping ColumnFits) := by
  have hreads : (columnEntries d).IfMapping ColumnReads :=
    (guarded_readColumn (R := False) nofun nofun nofun).accepts draft h
  obtain ⟨fields, hfields, hiff⟩ := isBuildable_iff_of_readColumn h draft.name.display
  rw [hfields, ifMapping_mapping] at hreads
  rw [hfields] at hfits ⊢
  rw [ifMapping_mapping] at hfits ⊢
  have hparts (hR : R) := isOrdinary_of_readColumn h (hd hR)
  have hbuilt : Guarded IsInvariant (Column.ofDraft (draft.rename draft.name.display)) R
      (draft.rename draft.name.display).IsBuildable :=
    ColumnDraft.guarded_ofDraft (fun hR => (hparts hR).2.1) (fun hR => (hparts hR).2.2)
      fun hR => hiff.mpr (hfits hR).toColumnBuilds
  refine ((hbuilt.mono fun h => ?_).map _).worded fun hR => (hparts hR).1
  exact ⟨hreads, hiff.mp h⟩

/-! ## Building entities -/

theorem guarded_checkKey (h : R → d.IsKey) : Guarded IsInvariant (checkKey d) R d.IsKey := by
  unfold checkKey
  split_ifs with hkey
  · exact .ok () hkey
  · exact .fault fun hR => hkey (h hR)

/-- Whether a value is all there is of a key can be told when all of them are ordinary. -/
theorem exists_isOnly? {key : List Doc} (hkey : ∀ x ∈ key, x.IsOrdinary) (hd : d.IsOrdinary) :
    ∃ answer, Table.isOnly? key d = some answer := by
  cases key with
  | nil => exact ⟨false, rfl⟩
  | cons first rest =>
    obtain ⟨answer, hanswer⟩ := (hkey first List.mem_cons_self).exists_same? hd
    rw [Table.isOnly?, hanswer]
    cases answer <;> exact ⟨_, rfl⟩

theorem guarded_ofNamed {name : Doc} {columns : List (Column Doc)} {primaryKey : Option (List Doc)}
    {group : Option Doc} (hname : R → name.IsOrdinary)
    (hcolumns : ∀ c ∈ columns, R → c.name.IsOrdinary)
    (hkey : ∀ key, primaryKey = some key → ∀ x ∈ key, R → x.IsOrdinary) :
    Guarded IsInvariant (Table.ofNamed name columns primaryKey group) R True := by
  refine Guarded.worded ?_ hname
  unfold Table.buildWith
  split
  · exact .ok _ trivial
  · next column hcolumn =>
    split
    · exact .ok _ trivial
    · exact .rejection (.invariant _)
    · next hnone =>
      refine .fault fun hR => ?_
      -- the column that numbers the rows has an ordinary name
      have hmem : column ∈ (columns.filter fun c => c.autoIncrement).map Column.name := by
        rw [hcolumn]
        exact List.mem_singleton_self column
      obtain ⟨c, hc, rfl⟩ := List.mem_map.mp hmem
      have hordinary := hcolumns c (List.mem_of_mem_filter hc) hR
      cases primaryKey with
      | none => cases hnone
      | some key =>
        obtain ⟨answer, hanswer⟩ := exists_isOnly? (fun x hx => hkey key rfl x hx hR) hordinary
        cases hnone.symm.trans hanswer
  · exact .rejection (.invariant _)

theorem guarded_ofNamedRow {columns : List (SeedColumn Doc)} {keys : List Doc} {updates : Bool}
    (htable : R → table.IsOrdinary) :
    Guarded IsInvariant (SeedRow.ofNamed table columns keys updates) R True := by
  unfold SeedRow.ofNamed
  split_ifs
  · exact .error_worded (.invariant _) htable
  · exact .ok _ trivial

theorem isOrdinary_of_readPrimaryKey {key : List Doc} (h : readPrimaryKey fields = .ok (some key))
    (hfields : (Doc.mapping fields).IsOrdinary) : ∀ x ∈ key, x.IsOrdinary := by
  unfold readPrimaryKey at h
  dsimp only at h
  split_ifs at h
  · obtain ⟨xs, hxs, heq⟩ := map_eq_ok_iff.mp h
    obtain rfl := Option.some.inj heq
    exact (hfields.value "primaryKey").items hxs
  · cases h

theorem guarded_table {draft : EntityDraft} (h : readTable d place = .ok draft)
    (hd : R → d.IsOrdinary) (hfits : R → d.IfMapping (TableFits IsKey ColumnFits)) :
    Guarded IsInvariant draft.build R (d.IfMapping (TableFits IsKey ColumnFits)) := by
  have hreads : d.IfMapping (TableFits IsAnything ColumnReads) :=
    (guarded_readTable (R := False) nofun nofun).accepts draft h
  unfold readTable at h
  simp only [bind_eq_ok_iff] at h
  obtain ⟨fields, hfields, name, hname, key, hkey, docs, hdocs, drafts, hdrafts, h⟩ := h
  cases h
  obtain rfl := eq_mapping_of_fieldsOf hfields
  obtain ⟨rfl, -⟩ := value_of_require hname
  rw [ifMapping_mapping] at hreads hfits ⊢
  -- the columns are the items of their field, which is true when there are any
  have hcolumns : ∀ c ∈ docs, (R → c.IsOrdinary) ∧
      (R → (columnEntries c).IfMapping ColumnFits) := by
    intro c hc
    have htruthy := truthy_of_mem_itemsIfAny hdocs hc
    have hitems := items_of_itemsIfAny hdocs htruthy
    exact ⟨fun hR => ((hd hR).value "columns").items hitems c hc,
      fun hR => ((hfits hR).columns htruthy).of_mem hitems hc⟩
  have hnames : ∀ draft ∈ drafts, R → draft.name.IsOrdinary :=
    forall_of_mapM hdrafts fun c hc draft hdraft hR =>
      (isOrdinary_of_readColumn hdraft ((hcolumns c hc).1 hR)).1
  have hall : Guarded IsInvariant (drafts.mapM Column.ofNamedDraft) R
      (∀ c ∈ docs, (columnEntries c).IfMapping ColumnFits) :=
    .mapM_of_forall₂ (((List.forall₂_and_left _ _).mpr ⟨hcolumns, mapM_eq_ok_iff.mp hdrafts⟩).imp
      fun _ _ ⟨⟨hc, hcolumn⟩, hread⟩ => guarded_column hread hc hcolumn)
  rw [EntityDraft.build]
  refine .bind hall fun columns hbuild hbuilt => ?_
  have hbuiltNames : ∀ c ∈ columns, R → c.name.IsOrdinary := by
    refine forall_of_mapM hbuild fun draft hdraft c hc => ?_
    rw [(Column.parts_of_ofNamedDraft hc).1]
    exact hnames draft hdraft
  refine .bind (guarded_ofNamed (fun hR => (hd hR).value "name") hbuiltNames ?_) fun t _ _ => ?_
  · intro xs hxs x hx hR
    subst hxs
    exact isOrdinary_of_readPrimaryKey hkey (hd hR) x hx
  · refine .bind (guarded_checkKey fun hR => (hfits hR).name) fun _ _ hname => .ok _ ?_
    refine ⟨hname, hreads.primaryKey, fun htruthy => ⟨docs, ?_, hbuilt⟩⟩
    exact items_of_itemsIfAny hdocs htruthy

theorem guarded_index {draft : EntityDraft} (h : readIndex d place = .ok draft)
    (hfits : R → d.IfMapping (IndexFits IsKey)) :
    Guarded IsInvariant draft.build R (d.IfMapping (IndexFits IsKey)) := by
  have hreads : d.IfMapping (IndexFits IsAnything) :=
    (guarded_readIndex (R := False) nofun).accepts draft h
  unfold readIndex at h
  simp only [bind_eq_ok_iff] at h
  obtain ⟨fields, hfields, name, hname, table, htable, value, -, columns, -, h⟩ := h
  cases h
  obtain rfl := eq_mapping_of_fieldsOf hfields
  obtain ⟨rfl, -⟩ := value_of_require hname
  obtain ⟨rfl, -⟩ := value_of_require htable
  rw [ifMapping_mapping] at hreads hfits ⊢
  refine .bind (guarded_checkKey fun hR => (hfits hR).table) fun _ _ htable => ?_
  refine .bind (guarded_checkKey fun hR => (hfits hR).name) fun _ _ hname => ?_
  exact .ok _ ⟨hname, htable, hreads.columns⟩

theorem guarded_foreignKey {draft : EntityDraft} (h : readForeignKey d place = .ok draft)
    (hfits : R → d.IfMapping (ForeignKeyFits IsKey)) :
    Guarded IsInvariant draft.build R (d.IfMapping (ForeignKeyFits IsKey)) := by
  have hreads : d.IfMapping (ForeignKeyFits IsAnything) :=
    (guarded_readForeignKey (R := False) nofun).accepts draft h
  unfold readForeignKey at h
  simp only [bind_eq_ok_iff] at h
  obtain ⟨fields, hfields, value, -, docs, -, columns, -, name, hname, table, htable, foreign, -,
    h⟩ := h
  cases h
  obtain rfl := eq_mapping_of_fieldsOf hfields
  obtain ⟨rfl, -⟩ := value_of_require hname
  obtain ⟨rfl, -⟩ := value_of_require htable
  rw [ifMapping_mapping] at hreads hfits ⊢
  refine .bind (guarded_checkKey fun hR => (hfits hR).table) fun _ _ htable => ?_
  refine .bind (guarded_checkKey fun hR => (hfits hR).name) fun _ _ hname => ?_
  exact .ok _ ⟨hreads.columns, hname, htable⟩

theorem guarded_seed {draft : EntityDraft} (h : readSeed d place = .ok draft)
    (hd : R → d.IsOrdinary) (hfits : R → d.IfMapping (SeedFits IsKey)) :
    Guarded IsInvariant draft.build R (d.IfMapping (SeedFits IsKey)) := by
  have hreads : d.IfMapping (SeedFits IsAnything) :=
    ((staged_seed (R := False) place nofun).guarded
      (guarded_pendingSeed nofun nofun)).accepts draft h
  unfold readSeed at h
  simp only [bind_eq_ok_iff] at h
  obtain ⟨fields, hfields, table, htable, value, -, docs, -, columns, -, keys, -, h⟩ := h
  cases h
  obtain rfl := eq_mapping_of_fieldsOf hfields
  obtain ⟨rfl, -⟩ := value_of_require htable
  rw [ifMapping_mapping] at hreads hfits ⊢
  refine .bind (guarded_ofNamedRow fun hR => (hd hR).value "table") fun r _ _ => ?_
  refine .bind (guarded_checkKey fun hR => (hfits hR).table) fun _ _ htable => .ok _ ?_
  exact ⟨htable, hreads.columns, hreads.keys⟩

/-- What building asks of the draft of an entry it asks of the fields that it is read from. -/
theorem guarded_build {position : Nat} {draft : EntityDraft} (h : readEntry position d = .ok draft)
    (hd : R → d.IsOrdinary) (hfits : R → FitEntry d) :
    Guarded IsInvariant draft.build R (FitEntry d) := by
  unfold FitEntry at hfits ⊢
  unfold readEntry at h
  dsimp only at h
  split at h
  · next hkind =>
    rw [ifMapping_tableFits_iff hkind] at hfits ⊢
    exact guarded_table h hd hfits
  · next hkind =>
    rw [ifMapping_indexFits_iff hkind] at hfits ⊢
    exact guarded_index h hfits
  · next hkind =>
    rw [ifMapping_foreignKeyFits_iff hkind] at hfits ⊢
    exact guarded_foreignKey h hfits
  · next hkind =>
    rw [ifMapping_seedFits_iff hkind] at hfits ⊢
    exact guarded_seed h hd hfits
  · split_ifs at h

/-- Each draft of a list of entries is read from the entry at its place. -/
theorem forall₂_of_readEntriesFrom {position : Nat} {docs : List Doc} {drafts : List EntityDraft}
    (h : readEntriesFrom position docs = .ok drafts) :
    List.Forall₂ (fun d draft => ∃ n, readEntry n d = .ok draft) docs drafts := by
  induction docs generalizing position drafts with
  | nil =>
    cases h
    exact .nil
  | cons d rest ih =>
    unfold readEntriesFrom at h
    simp only [bind_eq_ok_iff] at h
    obtain ⟨first, hfirst, others, hothers, h⟩ := h
    cases h
    exact .cons ⟨position, hfirst⟩ (ih hothers)

end

/-! ## Documents -/

variable {d : Doc} {drafts : List EntityDraft} {R : Prop}

/-- The entries of an ordinary document that fits are ordinary and fit. -/
theorem ordinary_and_fit_of_mem (hd : R → d.IsOrdinary) (hfits : R → Fits d) :
    ∀ x ∈ entriesIn d, (R → x.IsOrdinary) ∧ (R → FitEntry x) := fun x hx =>
  ⟨fun hR => isOrdinary_of_mem_entriesIn (hd hR) hx, fun hR => hfits hR x hx⟩

theorem guarded_readEntries (hd : R → d.IsOrdinary) (hfits : R → Fits d) :
    Guarded IsRejection (readEntries d) R True := by
  have hentries := ordinary_and_fit_of_mem hd hfits
  unfold readEntries
  split
  · exact .ok [] trivial
  · next fields =>
    dsimp only
    split_ifs
    · split
      · next xs hxs =>
        rw [entriesIn_of_list hxs] at hentries
        exact guarded_readEntriesFrom 1 hentries
      · exact .rejection (.malformed _)
    · exact .ok [] trivial
  · exact .rejection (.malformed _)

/-- The drafts of a document are read from its entries. -/
theorem readEntriesFrom_entriesIn (h : readEntries d = .ok drafts) :
    readEntriesFrom 1 (entriesIn d) = .ok drafts := by
  unfold readEntries at h
  split at h
  · exact h
  · next fields =>
    dsimp only at h
    split_ifs at h with htruthy
    · split at h
      · next xs hxs =>
        rw [entriesIn_of_list hxs]
        exact h
      · cases h
    · rw [entriesIn_of_not_truthy htruthy]
      exact h
  · cases h

theorem guarded_buildAll (h : readEntries d = .ok drafts) (hd : R → d.IsOrdinary)
    (hfits : R → Fits d) : Guarded IsInvariant (drafts.mapM EntityDraft.build) R (Fits d) := by
  have hentries := ordinary_and_fit_of_mem hd hfits
  have hread := forall₂_of_readEntriesFrom (readEntriesFrom_entriesIn h)
  exact .mapM_of_forall₂ (((List.forall₂_and_left _ _).mpr ⟨hentries, hread⟩).imp
    fun _ _ ⟨⟨hx, hfit⟩, _, hentry⟩ => guarded_build hentry hx hfit)

end Document

/-- **An ordinary document that fits** gives a schema or is rejected, and one that does not fit gives
no schema. -/
theorem guarded_ofDoc (d : Doc) :
    Guarded IsRejection (Schema.ofDoc d) (d.IsOrdinary ∧ Document.Fits d) (Document.Fits d) := by
  have hd : d.IsOrdinary ∧ Document.Fits d → d.IsOrdinary := And.left
  have hfits : d.IsOrdinary ∧ Document.Fits d → Document.Fits d := And.right
  unfold Schema.ofDoc
  refine .bind (Document.guarded_readEntries hd hfits) fun drafts hdrafts _ => ?_
  have hall := (Document.guarded_buildAll hdrafts hd hfits).weaken fun _ hp => hp.isRejection
  exact .bind hall fun entities _ hfits => .ok _ hfits

end SchemaPlan
