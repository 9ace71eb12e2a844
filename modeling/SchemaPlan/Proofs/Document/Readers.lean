import SchemaPlan.Proofs.Document.Pending

/-!
# What reading entries asks for

Each reader is guarded by what it asks of its fields, as long as all that it shows is ordinary.  What
it finds are the problems of its own checks, and what is looked up later is nothing to it.

* `guarded_readColumn`, `guarded_readTable`, `guarded_readIndex` and `guarded_readForeignKey` are about
  the readers that make nothing along the way.
* `guarded_pendingEntry` is about entries that are still to be built, `guarded_readEntry` about entries
  whose sources are made.
-/
namespace SchemaPlan

open SchemaPlan.Problem (IsReading IsRejection)

namespace Document

open SchemaPlan.Doc

/-! ## Reading entries -/

section

variable {d : Doc} {fields : Fields} {place : String} {table : Doc} {key : Doc → Prop}
  {column : Fields → Prop} {R : Prop}

theorem guarded_writtenDefault : Guarded IsReading (writtenDefault fields place) R True := by
  unfold writtenDefault
  dsimp only
  split_ifs
  · exact guarded_decoded _
  · exact .ok _ trivial

theorem guarded_readLimits (hfields : R → (Doc.mapping fields).IsOrdinary)
    (h : R → (fields.value "enumValues").isNull = false → (fields.value "enumValues").IsIterable) :
    Guarded IsReading (readLimits fields) R
      ((fields.value "enumValues").isNull = false → (fields.value "enumValues").IsIterable) := by
  unfold readLimits
  dsimp only
  split_ifs with hnull
  · refine .ok none fun h => ?_
    rw [hnull] at h
    cases h
  · refine .map (.bind (guarded_items fun hR => h hR (Bool.eq_false_iff.mpr hnull))
      fun values hvalues hiterable => ?_) _
    have hshown : Guarded IsReading (values.mapM Doc.shown) R (∀ v ∈ values, True) :=
      .mapM fun v hv => .shown fun hR => ((hfields hR).value "enumValues").items hvalues v hv
    exact hshown.mono fun _ _ => hiterable

theorem guarded_readColumn (htable : R → table.IsOrdinary) (hd : R → d.IsOrdinary)
    (h : R → (columnEntries d).IfMapping ColumnFits) :
    Guarded IsReading (readColumn table d) R ((columnEntries d).IfMapping ColumnReads) := by
  refine .bind (.shown htable) fun owner _ _ => guarded_fieldsOf fun fields hfields => ?_
  have hordinary (hR : R) : (Doc.mapping fields).IsOrdinary := hfields ▸ (hd hR).columnEntries
  have hfits (hR : R) : ColumnFits fields := h hR fields hfields
  refine .bind guarded_require fun name hname _ => ?_
  obtain ⟨rfl, -⟩ := value_of_require hname
  refine .bind (.shown fun hR => (hordinary hR).value "name") fun shown _ _ => ?_
  refine .bind guarded_writtenDefault fun default _ _ => ?_
  refine .bind guarded_require fun type _ _ => ?_
  refine .bind (guarded_count fun hR => (hfits hR).size) fun size _ hsize => ?_
  refine .bind (guarded_count fun hR => (hfits hR).scale) fun scale _ hscale => ?_
  refine .bind (guarded_readLimits hordinary fun hR => (hfits hR).limits) fun limits _ hlimits => ?_
  exact .ok _ ⟨hsize, hscale, hlimits⟩

theorem guarded_readPrimaryKey
    (h : R → (fields.value "primaryKey").truthy = true → (fields.value "primaryKey").IsIterable) :
    Guarded IsReading (readPrimaryKey fields) R
      ((fields.value "primaryKey").truthy = true → (fields.value "primaryKey").IsIterable) := by
  unfold readPrimaryKey
  dsimp only
  split_ifs with htruthy
  · exact ((guarded_items fun hR => h hR htruthy).mono fun h _ => h).map some
  · exact .ok none fun h => absurd h htruthy

theorem guarded_readTable (hd : R → d.IsOrdinary) (h : R → d.IfMapping (TableFits IsKey ColumnFits)) :
    Guarded IsReading (readTable d place) R (d.IfMapping (TableFits IsAnything ColumnReads)) := by
  refine guarded_fieldsOf fun fields hfields => ?_
  have hordinary (hR : R) : (Doc.mapping fields).IsOrdinary := hfields ▸ hd hR
  have hfits (hR : R) : TableFits IsKey ColumnFits fields := h hR fields hfields
  refine .bind guarded_require fun name hname _ => ?_
  obtain ⟨rfl, -⟩ := value_of_require hname
  refine .bind (guarded_readPrimaryKey fun hR => (hfits hR).primaryKey) fun primaryKey _ hkey => ?_
  refine .bind (guarded_itemsIfAny fun hR htruthy => ((hfits hR).columns htruthy).isIterable)
    fun docs hdocs _ => ?_
  have hcolumns : Guarded IsReading (docs.mapM (readColumn (Fields.value fields "name"))) R
      (∀ c ∈ docs, (columnEntries c).IfMapping ColumnReads) := by
    refine .mapM fun c hc => ?_
    have htruthy := truthy_of_mem_itemsIfAny hdocs hc
    have hitems := items_of_itemsIfAny hdocs htruthy
    exact guarded_readColumn (fun hR => (hordinary hR).value "name")
      (fun hR => ((hordinary hR).value "columns").items hitems c hc)
      fun hR => ((hfits hR).columns htruthy).of_mem hitems hc
  refine .bind hcolumns fun columns _ hreads => .ok _ ⟨trivial, hkey, fun htruthy => ?_⟩
  exact ⟨docs, items_of_itemsIfAny hdocs htruthy, hreads⟩

theorem guarded_readIndex (h : R → d.IfMapping (IndexFits IsKey)) :
    Guarded IsReading (readIndex d place) R (d.IfMapping (IndexFits IsAnything)) := by
  refine guarded_fieldsOf fun fields hfields => ?_
  refine .bind guarded_require fun index _ _ => .bind guarded_require fun table _ _ => ?_
  refine .bind guarded_require fun value hvalue _ => ?_
  obtain ⟨rfl, hnull⟩ := value_of_require hvalue
  refine .bind (guarded_items fun hR => (h hR fields hfields).columns hnull)
    fun columns _ hcolumns => ?_
  exact .ok _ ⟨trivial, trivial, fun _ => hcolumns⟩

/-- A pair of columns asks nothing of its fields. -/
theorem guarded_readPair : Guarded IsReading (readPair place d) R True := by
  refine (guarded_fieldsOf (Q := fun _ => True) fun fields _ => ?_).mono fun _ => trivial
  refine .bind guarded_require fun column _ _ => .bind guarded_require fun foreign _ _ => ?_
  exact .ok _ trivial

theorem guarded_readForeignKey (h : R → d.IfMapping (ForeignKeyFits IsKey)) :
    Guarded IsReading (readForeignKey d place) R (d.IfMapping (ForeignKeyFits IsAnything)) := by
  refine guarded_fieldsOf fun fields hfields => ?_
  refine .bind guarded_require fun value hvalue _ => ?_
  obtain ⟨rfl, hnull⟩ := value_of_require hvalue
  refine .bind (guarded_items fun hR => (h hR fields hfields).columns hnull)
    fun docs _ hcolumns => ?_
  refine .bind (.mapM fun _ _ => guarded_readPair) fun columns _ _ => ?_
  refine .bind guarded_require fun name _ _ => .bind guarded_require fun table _ _ => ?_
  refine .bind guarded_require fun foreignTable _ _ => ?_
  exact .ok _ ⟨fun _ => hcolumns, trivial, trivial⟩

/-- A value of a seed row asks nothing of its fields. -/
theorem guarded_pendingSeedColumn (htable : R → table.IsOrdinary) (hd : R → d.IsOrdinary) :
    Guarded IsReading (pendingSeedColumn table d) R True := by
  refine .bind (.shown htable) fun owner _ _ => ?_
  refine (guarded_fieldsOf (Q := fun _ => True) fun fields hfields => ?_).mono fun _ => trivial
  have hordinary (hR : R) : (Doc.mapping fields).IsOrdinary := hfields ▸ hd hR
  refine .bind guarded_require fun column hcolumn _ => ?_
  obtain ⟨rfl, -⟩ := value_of_require hcolumn
  split
  · next kind _ =>
    refine .bind (guarded_writtenValue (fun hR => (hordinary hR).value _)
      fun hR => (hordinary hR).value "name") fun value _ _ => ?_
    exact .ok _ trivial
  · exact .error_worded (.notExactlyOne owner _) fun hR => (hordinary hR).value "name"

theorem guarded_pendingSeed (hd : R → d.IsOrdinary) (h : R → d.IfMapping (SeedFits IsKey)) :
    Guarded IsReading (pendingSeed d place) R (d.IfMapping (SeedFits IsAnything)) := by
  refine guarded_fieldsOf fun fields hfields => ?_
  have hordinary (hR : R) : (Doc.mapping fields).IsOrdinary := hfields ▸ hd hR
  have hfits (hR : R) : SeedFits IsKey fields := h hR fields hfields
  refine .bind guarded_require fun table htable _ => ?_
  obtain ⟨rfl, -⟩ := value_of_require htable
  refine .bind guarded_require fun value hvalue _ => ?_
  obtain ⟨rfl, hnull⟩ := value_of_require hvalue
  refine .bind (guarded_items fun hR => (hfits hR).columns hnull) fun docs hdocs hcolumns => ?_
  refine .bind (.mapM fun c hc => guarded_pendingSeedColumn (fun hR => (hordinary hR).value "table")
    fun hR => ((hordinary hR).value "columns").items hdocs c hc) fun columns _ _ => ?_
  refine .bind (guarded_itemsIfAny fun hR => (hfits hR).keys) fun keys _ hkeys => ?_
  exact .ok _ ⟨trivial, fun _ => hcolumns, hkeys⟩

/-- An entry of a kind is a mapping. -/
theorem exists_fields_of_kindOf {kind : Doc} (h : kindOf d = kind) (hkind : kind.isNull = false) :
    ∃ fields, d = .mapping fields ∧ Fields.value fields "kind" = kind := by
  cases d with
  | mapping fields => exact ⟨fields, rfl, h⟩
  | _ =>
    cases h
    cases hkind

/-- What an entry of a kind asks of its fields. -/
theorem ifMapping_entryFits_iff {kind : Doc} {P : Fields → Prop} (h : kindOf d = kind)
    (hkind : kind.isNull = false) (hP : ∀ fields, Fields.value fields "kind" = kind →
      (EntryFits key column fields ↔ P fields)) :
    d.IfMapping (EntryFits key column) ↔ d.IfMapping P := by
  obtain ⟨fields, rfl, hvalue⟩ := exists_fields_of_kindOf h hkind
  rw [ifMapping_mapping, ifMapping_mapping, hP fields hvalue]

theorem ifMapping_tableFits_iff (h : kindOf d = .text "table") :
    d.IfMapping (EntryFits key column) ↔ d.IfMapping (TableFits key column) :=
  ifMapping_entryFits_iff h rfl fun _ hkind => by
    rw [EntryFits, hkind]
    exact Iff.rfl

theorem ifMapping_indexFits_iff (h : kindOf d = .text "index") :
    d.IfMapping (EntryFits key column) ↔ d.IfMapping (IndexFits key) :=
  ifMapping_entryFits_iff h rfl fun _ hkind => by
    rw [EntryFits, hkind]
    exact Iff.rfl

theorem ifMapping_foreignKeyFits_iff (h : kindOf d = .text "foreignKey") :
    d.IfMapping (EntryFits key column) ↔ d.IfMapping (ForeignKeyFits key) :=
  ifMapping_entryFits_iff h rfl fun _ hkind => by
    rw [EntryFits, hkind]
    exact Iff.rfl

theorem ifMapping_seedFits_iff (h : kindOf d = .text "insert") :
    d.IfMapping (EntryFits key column) ↔ d.IfMapping (SeedFits key) :=
  ifMapping_entryFits_iff h rfl fun _ hkind => by
    rw [EntryFits, hkind]
    exact Iff.rfl

/-- The kind of an ordinary entry is ordinary. -/
theorem isOrdinary_kindOf (h : d.IsOrdinary) : (kindOf d).IsOrdinary := by
  cases d with
  | mapping fields => exact h.value "kind"
  | _ => exact .null

theorem guarded_pendingEntry {position : Nat} (hd : R → d.IsOrdinary) (h : R → FitEntry d) :
    Guarded IsReading (pendingEntry position d) R
      (d.IfMapping (EntryFits IsAnything ColumnReads)) := by
  unfold pendingEntry
  split
  · next hkind =>
    exact (guarded_pendingSeed hd fun hR => (ifMapping_seedFits_iff hkind).mp (h hR)).mono
      (ifMapping_seedFits_iff hkind).mpr
  · next hseed =>
    refine .map ?_ _
    unfold readEntry
    dsimp only
    split
    · next hkind =>
      exact (guarded_readTable hd fun hR => (ifMapping_tableFits_iff hkind).mp (h hR)).mono
        (ifMapping_tableFits_iff hkind).mpr
    · next hkind =>
      exact (guarded_readIndex fun hR => (ifMapping_indexFits_iff hkind).mp (h hR)).mono
        (ifMapping_indexFits_iff hkind).mpr
    · next hkind =>
      exact (guarded_readForeignKey fun hR =>
        (ifMapping_foreignKeyFits_iff hkind).mp (h hR)).mono (ifMapping_foreignKeyFits_iff hkind).mpr
    · next hkind => exact (hseed hkind).elim
    · next htable hindex hforeignKey _ =>
      split_ifs with hkey
      · exact .error_worded (.malformed _) fun hR => isOrdinary_kindOf (hd hR)
      · refine .fault fun hR => hkey ?_
        cases d with
        | mapping fields =>
          have hfits := h hR fields rfl
          unfold EntryFits at hfits
          split at hfits
          · next hkind => exact (htable hkind).elim
          · next hkind => exact (hindex hkind).elim
          · next hkind => exact (hforeignKey hkind).elim
          · next hkind => exact (hseed hkind).elim
          · exact hfits
        | _ => rfl

theorem guarded_readEntry {position : Nat} (hd : R → d.IsOrdinary) (h : R → FitEntry d) :
    Guarded IsRejection (readEntry position d) R
      (d.IfMapping (EntryFits IsAnything ColumnReads)) :=
  (staged_entry position hd).guarded (guarded_pendingEntry hd h)

theorem guarded_readEntriesFrom (position : Nat) {docs : List Doc}
    (h : ∀ x ∈ docs, (R → x.IsOrdinary) ∧ (R → FitEntry x)) :
    Guarded IsRejection (readEntriesFrom position docs) R True := by
  induction docs generalizing position with
  | nil => exact .ok [] trivial
  | cons d rest ih =>
    obtain ⟨⟨hd, hfits⟩, hrest⟩ := List.forall_mem_cons.mp h
    refine .bind (guarded_readEntry hd hfits) fun draft _ _ => ?_
    exact .bind (ih (position + 1) hrest) fun drafts _ _ => .ok (draft :: drafts) trivial

end

end Document

end SchemaPlan
