import SchemaPlan.Given.Column
import SchemaPlan.Proofs.Column.Normal
import SchemaPlan.Proofs.Number.Texts
import SchemaPlan.Proofs.Schema.Equality

/-!
# Defaults are settled when a column is built

Building a column settles its default: what it is depends on the type, whether there is one on the
other ways to give a value, and a column that is built from the fields of a column is that column
again.  This holds for columns of a document and for columns given by hand.

* `IsSettled` says what a settled default is.
* `GivenColumn.build_eq_ok_iff` relates the two ways of building a column.
* `Column.ofDraft_settled` is about columns of a document, `GivenColumn.build_settled` about those
  given by hand, `defaults_are_settled` about both.
-/
namespace SchemaPlan

/-- A default that is settled for a type, the values of a limited type, and the other ways to give a
value. -/
structure IsSettled (type : ColumnType) (values : List String)
    (nullable autoIncrement hasSymbol : Bool) (default : Doc) : Prop where
  integer : ∀ t, type = .base t → t.isInteger = true → default = .null ∨ ∃ n, default = .int n
  decimal : type = .base .decimal → default = .null ∨ ∃ x, default = .decimal x
  enum : type = .base .enum → default = .null ∨ ∃ s ∈ values, default = .text s
  /-- All other types have texts and bytes. -/
  plain : (∀ t, type = .base t → t.isPlain = true) →
    default = .null ∨ (∃ s, default = .text s) ∨ ∃ b, default = .bytes b
  time : ∀ t s, type = .base t → default = .text s → s ∉ t.zeros
  given : nullable = false → autoIncrement = false → hasSymbol = false → default ≠ .null
  free : autoIncrement = true ∨ hasSymbol = true → default = .null

theorem defaultDoc_eq_null_iff {default : Option Literal} :
    defaultDoc default = .null ↔ default = none := by
  cases default with
  | none => simp [defaultDoc]
  | some v => cases v <;> simp [defaultDoc, Literal.toDoc]

/-! ## Literals that fit -/

namespace Literal.Fits

variable {values : List String} {type : ColumnType} {t : BaseType} {v : Literal} {s : String}

/-- A plain type has neither numbers nor a choice of values. -/
theorem not_integer_of_isPlain (h : t.isPlain = true) :
    t.isInteger = false ∧ t ≠ .decimal ∧ t ≠ .enum := by
  simpa [BaseType.isPlain, and_assoc] using h

theorem integer_of_isInteger (h : v.Fits values (.base t)) (ht : t.isInteger = true) :
    ∃ n, v = .int n := by
  cases h with
  | integer _ => exact ⟨_, rfl⟩
  | decimal _ => cases ht
  | listed _ => cases ht
  | text hplain _ => simp [(not_integer_of_isPlain hplain).1] at ht
  | bytes hplain => simp [(not_integer_of_isPlain hplain).1] at ht

theorem decimal_of_decimal (h : v.Fits values (.base .decimal)) : ∃ x, v = .decimal x := by
  cases h with
  | integer hinteger => cases hinteger
  | decimal _ => exact ⟨_, rfl⟩
  | text hplain _ => cases hplain
  | bytes hplain => cases hplain

theorem listed_of_enum (h : v.Fits values (.base .enum)) : ∃ s ∈ values, v = .text s := by
  cases h with
  | integer hinteger => cases hinteger
  | listed hs => exact ⟨_, hs, rfl⟩
  | text hplain _ => cases hplain
  | bytes hplain => cases hplain

theorem plain_of_isPlain (h : v.Fits values type) (hplain : ∀ t, type = .base t → t.isPlain = true) :
    (∃ s, v = .text s) ∨ ∃ b, v = .bytes b := by
  cases h with
  | integer hinteger =>
    have hnot := (not_integer_of_isPlain (hplain _ rfl)).1
    rw [hinteger] at hnot
    cases hnot
  | decimal _ => exact absurd rfl (not_integer_of_isPlain (hplain _ rfl)).2.1
  | listed _ => exact absurd rfl (not_integer_of_isPlain (hplain _ rfl)).2.2
  | text _ _ => exact Or.inl ⟨_, rfl⟩
  | bytes _ => exact Or.inr ⟨_, rfl⟩
  | otherText _ => exact Or.inl ⟨_, rfl⟩
  | otherBytes _ => exact Or.inr ⟨_, rfl⟩

/-- A text that fits is no spelling of no time at all. -/
theorem not_mem_zeros (h : (Literal.text s).Fits values (.base t)) : s ∉ t.zeros := by
  cases h with
  | listed _ => exact List.not_mem_nil
  | text _ hs => exact hs

end Literal.Fits

/-! ## Columns of a document -/

namespace Column

variable {c : Column} {d : ColumnDraft}

/-- The default of a normal column is settled. -/
theorem IsNormal.isSettled (h : c.IsNormal) :
    IsSettled c.type (c.enumValues.getD []) c.nullable c.autoIncrement c.systemDefault.isSome
      (defaultDoc c.default) := by
  have hfree : c.autoIncrement = true ∨ c.systemDefault.isSome = true → c.default = none := by
    rintro (hauto | hsymbol)
    · exact (h.numbered hauto).2
    · exact h.system (Option.isSome_iff_ne_none.mp hsymbol)
  have hgiven : c.nullable = false → c.autoIncrement = false → c.systemDefault.isSome = false →
      c.default ≠ none := by
    intro hnull hauto hsymbol hnone
    rcases h.given hnone with hnot | hnot | hnot
    · simp [hnull] at hnot
    · simp [hauto] at hnot
    · exact hnot (by simpa using hsymbol)
  cases hdefault : c.default with
  | none =>
    have hno : ∀ s : String, defaultDoc none = .text s → False := by
      intro s hs
      cases hs
    exact ⟨fun _ _ _ => Or.inl rfl, fun _ => Or.inl rfl, fun _ => Or.inl rfl, fun _ => Or.inl rfl,
      fun _ s _ hs => (hno s hs).elim,
      fun hnull hauto hsymbol => absurd hdefault (hgiven hnull hauto hsymbol), fun _ => rfl⟩
  | some v =>
    have hfits := h.fits v hdefault
    have hsome : defaultDoc (some v) = v.toDoc := rfl
    rw [hsome]
    refine ⟨fun t ht hinteger => ?_, fun ht => ?_, fun ht => ?_, fun hplain => ?_, fun t s ht hs => ?_,
      fun _ _ _ hnull => ?_, fun hother => ?_⟩
    · rw [ht] at hfits
      obtain ⟨n, rfl⟩ := hfits.integer_of_isInteger hinteger
      exact Or.inr ⟨n, rfl⟩
    · rw [ht] at hfits
      obtain ⟨x, rfl⟩ := hfits.decimal_of_decimal
      exact Or.inr ⟨x, rfl⟩
    · rw [ht] at hfits
      obtain ⟨s, hs, rfl⟩ := hfits.listed_of_enum
      exact Or.inr ⟨s, hs, rfl⟩
    · rcases hfits.plain_of_isPlain hplain with ⟨s, rfl⟩ | ⟨b, rfl⟩
      · exact Or.inr (Or.inl ⟨s, rfl⟩)
      · exact Or.inr (Or.inr ⟨b, rfl⟩)
    · rw [ht] at hfits
      cases v <;> cases hs
      exact hfits.not_mem_zeros
    · exact absurd (defaultDoc_eq_null_iff.mp (hsome.trans hnull)) nofun
    · exact absurd ((hfree hother).symm.trans hdefault) nofun

/-- The default of a normal column is read from itself. -/
theorem IsNormal.readsAs_toDoc (h : c.IsNormal) :
    Literal.ReadsAs c.default (defaultDoc c.default) c.default := by
  cases hdefault : c.default with
  | none => exact .null
  | some v =>
    have hfits := h.fits v hdefault
    cases v with
    | text s => exact .text s
    | bytes b => exact .bytes b
    | int n => exact .int n
    | decimal x =>
      generalize c.type = type at hfits
      cases hfits with
      | decimal hx => exact .decimal rfl (Decimal.ofText?_toText hx)

/-- A type that a text names is equal to itself. -/
theorem same?_type (htype : ∃ s, d.type = .text s) : d.columnType.same? d.columnType = some true := by
  obtain ⟨s, hs⟩ := htype
  rw [ColumnDraft.columnType, hs, ColumnType.ofDoc]
  cases BaseType.named? s with
  | none => simp [ColumnType.same?, Doc.same?]
  | some t => simp [ColumnType.same?]

/-- The default of a column of a document is settled, and the column is built again from its own
fields. -/
theorem ofDraft_settled (htype : ∃ s, d.type = .text s) (h : Column.ofDraft d = .ok c) :
    IsSettled c.type (c.enumValues.getD []) c.nullable c.autoIncrement c.systemDefault.isSome
        (defaultDoc c.default) ∧
      Column.ofDraft (c.draftWith (defaultDoc c.default)) = .ok c ∧
      (c.HasNumber → c.same? c = some true) := by
  have hnormal := isNormal_of_ofDraft h
  refine ⟨hnormal.isSettled, ofDraft_draftWith hnormal hnormal.readsAs_toDoc, fun hnumber => ?_⟩
  obtain ⟨-, reference, default, -, -, -, rfl⟩ := ofDraft_eq_ok_iff.mp h
  exact IsDefinite.same?_self ⟨same?_type htype, hnumber⟩

/-- A column has the type, the switches and the values of its draft. -/
theorem traits_of_ofDraft (h : Column.ofDraft d = .ok c) :
    c.type = d.columnType ∧ c.nullable = d.nullable ∧ c.autoIncrement = d.autoIncrement ∧
      c.enumValues = d.enumValues := by
  obtain ⟨-, reference, default, -, -, -, rfl⟩ := ofDraft_eq_ok_iff.mp h
  exact ⟨rfl, rfl, rfl, rfl⟩

/-- A draft restates the system variable that is read from it. -/
theorem spelling_of_read {reference : Option SystemReference}
    (h : d.readSystemDefault = .ok reference) :
    (reference.map fun r => Doc.text r.spelling).getD .null = d.systemDefault := by
  unfold ColumnDraft.readSystemDefault at h
  split_ifs at h with hnull
  · cases h
    cases hsystem : d.systemDefault with
    | null => rfl
    | _ => simp [hsystem, Doc.isNull] at hnull
  · split at h
    · next s hs =>
      unfold SystemReference.spelled? at h
      split_ifs at h
      cases h
      exact hs.symm
    · cases h
    · cases h

/-- The fields of a column are those of its draft but for the default. -/
theorem draftWith_of_ofDraft (h : Column.ofDraft d = .ok c) (value : Doc) :
    c.draftWith value = { d with default := value } := by
  obtain ⟨-, reference, default, hreference, -, -, rfl⟩ := ofDraft_eq_ok_iff.mp h
  have htype : d.columnType.toDoc = d.type := ColumnType.toDoc_ofDoc d.type
  simp only [draftWith, htype, spelling_of_read hreference]

end Column

/-! ## Columns given by hand -/

namespace GivenColumn

variable {f : ColumnFields} {given : Doc} {g : GivenColumn} {d : ColumnDraft} {values : List Doc}

/-- The values that a column is limited to, as it is given them. -/
def givenValues (g : GivenColumn) : Doc :=
  (g.enumValues.map Doc.list).getD .null

/-- The values are texts. -/
def HasTexts (values : Option (List Doc)) : Prop :=
  ∀ items, values = some items → ∀ v ∈ items, ∃ s, v = .text s

theorem readValues_givenValues (g : GivenColumn) : readValues g.givenValues = .ok g.enumValues := by
  unfold givenValues readValues
  cases g.enumValues with
  | none => rfl
  | some items => rfl

/-- Texts are what is shown of them. -/
theorem map_text_display {items : List Doc} (h : ∀ v ∈ items, ∃ s, v = .text s) :
    (items.map Doc.display).map Doc.text = items := by
  rw [List.map_map]
  conv_rhs => rw [← List.map_id items]
  refine List.map_congr_left fun v hv => ?_
  obtain ⟨s, rfl⟩ := h v hv
  rfl

theorem same?_text_any (s : String) (texts : List String) :
    ((texts.map Doc.text).any fun value => (Doc.text s).same? value == some true) =
      texts.contains s := by
  rw [List.any_map, List.contains_eq_any_beq]
  refine congrArg (texts.any ·) (funext fun t => ?_)
  simp [Doc.same?]

theorem same?_bytes_any (b : List UInt8) (texts : List String) :
    ((texts.map Doc.text).any fun value => (Doc.bytes b).same? value == some true) = false := by
  rw [List.any_map, List.any_eq_false]
  intro t _
  simp [Doc.same?]

/-- A default of a limited type is a text or bytes. -/
theorem plain_of_normalDefault {v : Literal} (henum : d.columnType = .base .enum)
    (h : d.normalDefault = .ok (some v)) : (∃ s, v = .text s) ∨ ∃ b, v = .bytes b := by
  unfold ColumnDraft.normalDefault at h
  split_ifs at h
  · cases h
  · have hzero : d.zeroDefault = .ok (.text (d.values.headD "")) := by
      rw [ColumnDraft.zeroDefault, henum]
    rw [hzero] at h
    cases h
    exact Or.inl ⟨_, rfl⟩
  · rw [ColumnDraft.namedDefault_of_base henum (by decide), if_neg (by decide)] at h
    obtain ⟨w, hw, hv⟩ := map_eq_ok_iff.mp h
    cases hv
    rcases ColumnDraft.plainDefault_cases hw BaseType.enum.empty_not_mem_zeros with
      ⟨b, hb⟩ | ⟨s, hs, -⟩
    · exact Or.inr ⟨b, hb⟩
    · exact Or.inl ⟨s, hs⟩

/-- A default of a limited type is not among the values of the column. -/
def isUnlisted (d : ColumnDraft) (values : List Doc) (default : Doc) : Bool :=
  d.columnType.isBase .enum && !default.isNull &&
    !values.any fun value => default.same? value == some true

theorem normalDefault_eq (d : ColumnDraft) (values : List Doc) :
    normalDefault d values =
      if d.columnType.isBase .enum && d.default.isNull && !d.isFree then .ok (values.headD .null)
      else d.normalDefault.bind fun default =>
        if isUnlisted d values (defaultDoc default) then
          .error ((defaultDoc default).worded ((Doc.list values).worded
            (.invariant (.defaultNotListed (defaultDoc default).literal d.name
              (Doc.list values).literal))))
        else .ok (defaultDoc default) := by
  rw [normalDefault]
  split_ifs
  · rfl
  · cases d.normalDefault with
    | error problem => rfl
    | ok default =>
      simp only [Except.map, bind, Except.bind]
      by_cases hunlisted : isUnlisted d values (defaultDoc default) = true
      · rw [if_pos hunlisted]
        exact if_pos hunlisted
      · rw [if_neg hunlisted]
        exact if_neg hunlisted

/-- Among texts a default is looked up as a document of the column has it looked up. -/
theorem isUnlisted_eq_false_iff {default : Option Literal}
    (hvalues : values = d.values.map Doc.text)
    (hplain : ∀ v, d.columnType = .base .enum → default = some v →
      (∃ s, v = .text s) ∨ ∃ b, v = .bytes b) :
    isUnlisted d values (defaultDoc default) = false ↔ d.checkListed default = .ok () := by
  unfold isUnlisted
  cases hbase : d.columnType.isBase .enum with
  | false =>
    refine iff_of_true rfl ?_
    cases default with
    | none => rfl
    | some v => cases v <;> simp [ColumnDraft.checkListed, hbase]
  | true =>
    have henum : d.columnType = .base .enum := ColumnType.isBase_iff.mp hbase
    cases default with
    | none => exact iff_of_true rfl rfl
    | some v =>
      rcases hplain v henum rfl with ⟨s, rfl⟩ | ⟨b, rfl⟩
      · have hany := same?_text_any s d.values
        simp [defaultDoc, Literal.toDoc, Doc.isNull, hvalues, hany, ColumnDraft.checkListed, hbase]
      · have hany := same?_bytes_any b d.values
        simp [defaultDoc, Literal.toDoc, Doc.isNull, hvalues, hany, ColumnDraft.checkListed, hbase]

/-- The default of a column with texts for values is the one that a document of it would give. -/
theorem normalDefault_eq_ok_iff {value : Doc} (hvalues : values = d.values.map Doc.text)
    (hshape : d.columnType = .base .enum → d.values ≠ []) :
    normalDefault d values = .ok value ↔ ∃ default, d.normalDefault = .ok default ∧
      d.checkListed default = .ok () ∧ value = defaultDoc default := by
  rw [normalDefault_eq]
  split_ifs with hzero
  · -- The zero of a limited type is the first of its values.
    simp only [Bool.and_eq_true, Bool.not_eq_true'] at hzero
    obtain ⟨⟨hbase, hnull⟩, hfree⟩ := hzero
    have henum : d.columnType = .base .enum := ColumnType.isBase_iff.mp hbase
    obtain ⟨first, rest, hfirst⟩ := List.exists_cons_of_ne_nil (hshape henum)
    have hdefault : d.normalDefault = .ok (some (.text first)) := by
      rw [ColumnDraft.normalDefault, if_pos hnull, if_neg (by simp [hfree]),
        ColumnDraft.zeroDefault, henum, hfirst]
      rfl
    have hlisted : d.checkListed (some (.text first)) = .ok () := by
      simp [ColumnDraft.checkListed, hfirst]
    rw [hvalues, hfirst, hdefault]
    constructor
    · rintro ⟨⟩
      exact ⟨_, rfl, hlisted, rfl⟩
    · rintro ⟨_, ⟨⟩, -, rfl⟩
      rfl
  · cases hdefault : d.normalDefault with
    | error problem => simp [Except.bind]
    | ok default =>
      have hlisted : isUnlisted d values (defaultDoc default) = false ↔
          d.checkListed default = .ok () :=
        isUnlisted_eq_false_iff hvalues fun v henum hv => plain_of_normalDefault henum (hv ▸ hdefault)
      constructor
      · intro h
        simp only [Except.bind] at h
        split_ifs at h with hunlisted
        cases h
        exact ⟨default, rfl, hlisted.mp (Bool.eq_false_iff.mpr hunlisted), rfl⟩
      · rintro ⟨_, ⟨⟩, hcheck, rfl⟩
        exact if_neg (Bool.eq_false_iff.mp (hlisted.mpr hcheck))

/-- A column with texts for values is built exactly when a document of it is read, with the default
and the system variable of the column that is read. -/
theorem build_eq_ok_iff {items : Option (List Doc)} (hread : readValues given = .ok items)
    (htexts : HasTexts items) :
    build f given = .ok g ↔ ∃ c, Column.ofDraft (f.draft items) = .ok c ∧
      g = ⟨{ f with default := defaultDoc c.default }, items, c.systemDefault⟩ := by
  have hvalues : items.getD [] = (f.draft items).values.map Doc.text := by
    cases items with
    | none => rfl
    | some items => exact (map_text_display (htexts items rfl)).symm
  rw [build, hread, bind_eq_ok_iff]
  simp only [mapError_eq_ok_iff, buildWith, bind_eq_ok_iff, Column.ofDraft_eq_ok_iff]
  constructor
  · rintro ⟨_, ⟨⟩, _, hshape, reference, hreference, value, hvalue, hg⟩
    cases hg
    have hlimited := (ColumnDraft.checkShape_eq_ok_iff.mp hshape).1
    obtain ⟨default, hdefault, hlisted, rfl⟩ := (normalDefault_eq_ok_iff hvalues hlimited).mp hvalue
    exact ⟨_, ⟨hshape, reference, default, hreference, hdefault, hlisted, rfl⟩, rfl⟩
  · rintro ⟨_, ⟨hshape, reference, default, hreference, hdefault, hlisted, rfl⟩, rfl⟩
    have hlimited := (ColumnDraft.checkShape_eq_ok_iff.mp hshape).1
    exact ⟨items, rfl, (), hshape, reference, hreference, _,
      (normalDefault_eq_ok_iff hvalues hlimited).mpr ⟨default, hdefault, hlisted, rfl⟩, rfl⟩

theorem readValues_of_build (h : build f given = .ok g) : readValues given = .ok g.enumValues := by
  rw [build, bind_eq_ok_iff] at h
  simp only [mapError_eq_ok_iff, buildWith, bind_eq_ok_iff] at h
  obtain ⟨items, hread, _, -, _, -, _, -, hg⟩ := h
  cases hg
  exact hread

/-- A default that is no number, or a number, is equal to itself. -/
theorem same?_defaultDoc {default : Option Literal}
    (h : ∀ x, defaultDoc default = .decimal x → x.isNan = false) :
    (defaultDoc default).same? (defaultDoc default) = some true := by
  cases default with
  | none => rfl
  | some v =>
    cases v with
    | text s => simp [defaultDoc, Literal.toDoc, Doc.same?]
    | bytes b => simp [defaultDoc, Literal.toDoc, Doc.same?]
    | int n =>
      show (Decimal.ofInt n).sameValue? (Decimal.ofInt n) = some true
      exact Decimal.sameValue?_eq_true_iff.mpr ⟨rfl, rfl, rfl⟩
    | decimal x =>
      show x.sameValue? x = some true
      exact Decimal.sameValue?_eq_true_iff.mpr ⟨h x rfl, h x rfl, rfl⟩

/-- The fields that are kept as they are given are equal to themselves, as all values are that hold
no number that is not a number. -/
structure KeepsEqual (f : ColumnFields) : Prop where
  name : f.name.same? f.name = some true
  size : f.size.same? f.size = some true
  scale : f.scale.same? f.scale = some true
  nullable : f.nullable.same? f.nullable = some true
  systemDefault : f.systemDefault.same? f.systemDefault = some true
  autoIncrement : f.autoIncrement.same? f.autoIncrement = some true
  withTimeZone : f.withTimeZone.same? f.withTimeZone = some true

theorem sameValues?_self {values : Option (List Doc)} (h : HasTexts values) :
    sameValues? values values = some true := by
  cases values with
  | none => rfl
  | some items =>
    have hitems : Doc.sameItems? items items = some true := by
      have hall := h items rfl
      clear h
      induction items with
      | nil => rfl
      | cons v rest ih =>
        obtain ⟨⟨s, rfl⟩, hrest⟩ := List.forall_mem_cons.mp hall
        exact Doc.sameItems?_cons_iff.mpr ⟨by simp [Doc.same?], ih hrest⟩
    exact andThen?_eq_true_iff.mpr ⟨hitems, by simp⟩

/-- A column with texts for its type and its values is equal to itself exactly when its default and
the fields that are kept are. -/
theorem same?_self_iff (htype : ∃ s, g.fields.type = .text s) (htexts : HasTexts g.enumValues) :
    g.same? g = some true ↔
      g.fields.default.same? g.fields.default = some true ∧ KeepsEqual g.fields := by
  obtain ⟨s, hs⟩ := htype
  have htype : g.fields.type.same? g.fields.type = some true := by rw [hs]; simp [Doc.same?]
  have hvalues := sameValues?_self htexts
  simp only [same?, sameFront?, andThen?_eq_true_iff, htype, hvalues, true_and, and_true]
  constructor
  · rintro ⟨⟨hname, hsize, hscale, hnullable⟩, hdefault, hsystem, hauto, hzone⟩
    exact ⟨hdefault, hname, hsize, hscale, hnullable, hsystem, hauto, hzone⟩
  · rintro ⟨hdefault, hkept⟩
    exact ⟨⟨hkept.name, hkept.size, hkept.scale, hkept.nullable⟩, hdefault, hkept.systemDefault,
      hkept.autoIncrement, hkept.withTimeZone⟩

/-- The default of a column given by hand is settled, and the column is built again from its own
fields. -/
theorem build_settled (htype : ∃ s, f.type = .text s) (htexts : HasTexts g.enumValues)
    (h : build f given = .ok g) :
    IsSettled g.columnType ((g.enumValues.getD []).map Doc.display) g.fields.nullable.truthy
        g.fields.autoIncrement.truthy g.systemDefault.isSome g.fields.default ∧
      build g.fields g.givenValues = .ok g ∧
      ((∀ x, g.fields.default = .decimal x → x.isNan = false) →
        g.fields.default.same? g.fields.default = some true ∧
          (g.same? g = some true ↔ KeepsEqual g.fields)) := by
  have hread := readValues_of_build h
  obtain ⟨fields, items, system⟩ := g
  obtain ⟨c, hc, heq⟩ := (build_eq_ok_iff hread htexts).mp h
  cases heq
  obtain ⟨hsettled, hagain, -⟩ := Column.ofDraft_settled htype hc
  obtain ⟨ht, hnull, hauto, hvalues⟩ := Column.traits_of_ofDraft hc
  refine ⟨?_, ?_, fun hnumber => ?_⟩
  · have htexts : c.enumValues.getD [] = (items.getD []).map Doc.display := by
      rw [hvalues]
      cases items <;> rfl
    rw [htexts, ht, hnull, hauto] at hsettled
    exact hsettled
  · -- The draft of the fields is that of the column but for the default.
    rw [Column.draftWith_of_ofDraft hc] at hagain
    exact (build_eq_ok_iff (readValues_givenValues _) htexts).mpr ⟨c, hagain, rfl⟩
  · have hdefault := same?_defaultDoc hnumber
    exact ⟨hdefault, (same?_self_iff htype htexts).trans (and_iff_right hdefault)⟩

end GivenColumn

/-! ## Both -/

/-- **Defaults are settled once and for all**, whether a column is built from a document or by hand,
when its type and the values it is limited to are texts: the default is what the type asks for, it is
there exactly when nothing else gives a value, and building the column again changes nothing, so that
the column is equal to the one that it is built into unless something in it differs from itself. -/
theorem defaults_are_settled :
    (∀ (d : ColumnDraft) (c : Column), (∃ s, d.type = .text s) → Column.ofDraft d = .ok c →
      IsSettled c.type (c.enumValues.getD []) c.nullable c.autoIncrement c.systemDefault.isSome
          (defaultDoc c.default) ∧
        Column.ofDraft (c.draftWith (defaultDoc c.default)) = .ok c ∧
        (c.HasNumber → c.same? c = some true)) ∧
    ∀ (f : ColumnFields) (given : Doc) (g : GivenColumn), (∃ s, f.type = .text s) →
      GivenColumn.HasTexts g.enumValues → GivenColumn.build f given = .ok g →
      IsSettled g.columnType ((g.enumValues.getD []).map Doc.display) g.fields.nullable.truthy
          g.fields.autoIncrement.truthy g.systemDefault.isSome g.fields.default ∧
        GivenColumn.build g.fields g.givenValues = .ok g ∧
        ((∀ x, g.fields.default = .decimal x → x.isNan = false) →
          g.fields.default.same? g.fields.default = some true ∧
            (g.same? g = some true ↔ GivenColumn.KeepsEqual g.fields)) :=
  ⟨fun _ _ htype h => Column.ofDraft_settled htype h,
    fun _ _ _ htype htexts h => GivenColumn.build_settled htype htexts h⟩

/-- The draft of a fee, which names its default by a power of ten with blanks around. -/
def feeDraft : ColumnDraft :=
  { ColumnDraft.plain "fee" (.text "decimal") with nullable := false, default := .text " 1E+5 " }

/-- The column of `feeDraft`. -/
def feeColumn : Column :=
  ⟨"fee", .base .decimal, 0, 0, false, some (.decimal (.finite false 1 5)), none, false, false, none⟩

/-- The fields of a fee that is given by hand, with a number for its switch. -/
def feeFields : ColumnFields :=
  ⟨.text "fee", .text "decimal", .int 8, .int 2, .int 0, .text " 1E+5 ", .null, .bool false, .bool false⟩

/-- The column of `feeFields`. -/
def givenFee : GivenColumn :=
  ⟨{ feeFields with default := .decimal (.finite false 1 5) }, none, none⟩

/-- The default of a fee is the number that is named, and is read again from its own text; so it is
when the fee is given by hand, with a zero for the switch of its nulls. -/
theorem fee_is_settled :
    (Column.ofDraft feeDraft = .ok feeColumn ∧
      IsSettled (.base .decimal) [] false false false (.decimal (.finite false 1 5)) ∧
      Column.ofDraft (feeColumn.draftWith (.decimal (.finite false 1 5))) = .ok feeColumn ∧
      feeColumn.same? feeColumn = some true) ∧
    GivenColumn.build feeFields .null = .ok givenFee ∧
      IsSettled (.base .decimal) [] false false false givenFee.fields.default ∧
      GivenColumn.build givenFee.fields .null = .ok givenFee ∧
      givenFee.same? givenFee = some true := by
  have hbuilt : Column.ofDraft feeDraft = .ok feeColumn := by rfl
  have hgiven : GivenColumn.build feeFields .null = .ok givenFee := by rfl
  have htexts : GivenColumn.HasTexts givenFee.enumValues := nofun
  obtain ⟨hsettled, hagain, hsame⟩ :=
    defaults_are_settled.1 feeDraft feeColumn ⟨"decimal", rfl⟩ hbuilt
  obtain ⟨hsettledGiven, hagainGiven, hsameGiven⟩ :=
    defaults_are_settled.2 feeFields .null givenFee ⟨"decimal", rfl⟩ htexts hgiven
  refine ⟨⟨hbuilt, hsettled, hagain, hsame fun x hx => ?_⟩, hgiven, hsettledGiven, hagainGiven, ?_⟩
  · cases hx
    rfl
  · refine (hsameGiven fun x hx => ?_).2.mpr ⟨rfl, ?_, ?_, ?_, rfl, ?_, ?_⟩
    · cases hx
      rfl
    all_goals decide +kernel

end SchemaPlan
