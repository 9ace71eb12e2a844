import SchemaPlan.Column.Draft
import SchemaPlan.Proofs.Noted
import SchemaPlan.Proofs.Number.Numerals

/-!
# Columns with normal defaults

Whatever a document says, the column that is built from it is normal: its default fits its type, and
only a column that a row may leave out has none.  A normal column is built again from what its own
document says, with the decimal default that is read from its numeral.

* `Column.isNormal_of_ofDraft` says that a column that is built is normal.
* `Column.ofDraft_draftWith` builds a normal column again from any value that its default is read
  from, `Column.ofDraft_draft` from what its document says.
* `Column.ofNamedDraft_draft` does so for a column whose name may be any value.
-/
namespace SchemaPlan

/-! ## Normal columns -/

/-- Whether a default of this type is kept as text or bytes. -/
def BaseType.isPlain (t : BaseType) : Bool :=
  !t.isInteger && t != .decimal && t != .enum

/-- The texts that a type reads as no time at all. -/
def BaseType.zeros (t : BaseType) : List String :=
  (t.temporal?.map Temporal.zeros).getD []

theorem BaseType.zeros_of_enum : BaseType.enum.zeros = [] := rfl

theorem BaseType.empty_not_mem_zeros (t : BaseType) : "" ∉ t.zeros := by
  cases t <;> decide

/-- The defaults that fit a type; those of a limited type are among its values. -/
inductive Literal.Fits (values : List String) : ColumnType → Literal → Prop where
  | integer {t : BaseType} {n : Int} (h : t.isInteger = true) : Fits values (.base t) (.int n)
  | decimal {x : Decimal} (h : x.IsRead) : Fits values (.base .decimal) (.decimal x)
  | listed {s : String} (h : s ∈ values) : Fits values (.base .enum) (.text s)
  | text {t : BaseType} {s : String} (h : t.isPlain = true) (hs : s ∉ t.zeros) :
    Fits values (.base t) (.text s)
  | bytes {t : BaseType} {b : List UInt8} (h : t.isPlain = true) : Fits values (.base t) (.bytes b)
  | otherText {label : Doc} {s : String} (h : label.isKey = true) : Fits values (.other label) (.text s)
  | otherBytes {label : Doc} {b : List UInt8} (h : label.isKey = true) :
    Fits values (.other label) (.bytes b)

/-- A column whose default fits its type and agrees with the other ways to give a value. -/
structure Column.IsNormal {ν : Type} (c : Column ν) : Prop where
  label : ColumnType.ofDoc c.type.toDoc = c.type
  values : c.type = .base .enum → c.enumValues.getD [] ≠ []
  numbered : c.autoIncrement = true → c.systemDefault = none ∧ c.default = none
  system : c.systemDefault ≠ none → c.default = none
  given : c.default = none →
    c.nullable = true ∨ c.autoIncrement = true ∨ c.systemDefault ≠ none
  fits : ∀ v, c.default = some v → v.Fits (c.enumValues.getD []) c.type

/-! ## Building columns -/

/-- The type that a document value names is written as that value. -/
theorem ColumnType.toDoc_ofDoc (d : Doc) : (ofDoc d).toDoc = d := by
  cases d with
  | text s =>
    cases hs : BaseType.named? s with
    | some t =>
      have hname : t.name = s := by
        unfold BaseType.named? at hs
        simpa using List.find?_some hs
      simp [ofDoc, hs, toDoc, hname]
    | none => simp [ofDoc, hs, toDoc]
  | _ => rfl

theorem SystemReference.spelled?_spelling (r : SystemReference) : spelled? r.spelling = some r := by
  rw [spelled?, dif_pos r.known]

theorem ColumnType.isBase_iff {t : ColumnType} {b : BaseType} : t.isBase b = true ↔ t = .base b := by
  cases t with
  | base c => simp [isBase]
  | other label => simp [isBase]

namespace ColumnDraft

variable {d : ColumnDraft} {default : Option Literal} {v : Literal}

theorem checkShape_eq_ok_iff :
    d.checkShape = .ok () ↔ (d.columnType = .base .enum → d.values ≠ []) ∧
      (d.autoIncrement = true → d.systemDefault.isNull = true ∧ d.default.isNull = true) := by
  simp only [checkShape, Bool.and_eq_true, List.isEmpty_iff, Bool.not_eq_true',
    ← ColumnType.isBase_iff]
  constructor
  · intro h
    split_ifs at h with hvalues hsystem hdefault
    refine ⟨fun ht hnil => hvalues ⟨ht, hnil⟩, fun hauto => ⟨?_, ?_⟩⟩
    · exact eq_true_of_ne_false fun hnull => hsystem ⟨hauto, hnull⟩
    · exact eq_true_of_ne_false fun hnull => hdefault ⟨hauto, hnull⟩
  · rintro ⟨hvalues, hauto⟩
    rw [if_neg fun h => hvalues h.1 h.2, if_neg, if_neg]
    · rintro ⟨h, hnull⟩
      rw [(hauto h).2] at hnull
      cases hnull
    · rintro ⟨h, hnull⟩
      rw [(hauto h).1] at hnull
      cases hnull

/-- A system variable is there exactly when the draft names one, and then the draft names no
default. -/
theorem systemDefault_of_read {reference : Option SystemReference}
    (h : d.readSystemDefault = .ok reference) :
    (d.systemDefault.isNull = true ↔ reference = none) ∧
      (reference ≠ none → d.default.isNull = true) := by
  unfold readSystemDefault at h
  split_ifs at h with hsystem hdefault
  · cases h
    exact ⟨iff_of_true hsystem rfl, fun hne => absurd rfl hne⟩
  · have hnull : d.default.isNull = true := by simpa using hdefault
    refine ⟨iff_of_false hsystem ?_, fun _ => hnull⟩
    rintro rfl
    split at h
    · split at h <;> cases h
    · cases h
    · cases h

theorem isFree_iff :
    d.isFree = true ↔ d.nullable = true ∨ d.autoIncrement = true ∨ d.systemDefault.isNull = false := by
  simp [isFree, or_assoc]

/-- A zero fits its type. -/
theorem fits_of_zeroDefault (h : d.zeroDefault = .ok v)
    (hvalues : d.columnType = .base .enum → d.values ≠ []) : v.Fits d.values d.columnType := by
  unfold zeroDefault at h
  cases htype : d.columnType with
  | other label =>
    rw [htype] at h
    dsimp only at h
    split_ifs at h with hkey
    cases h
    exact .otherText hkey
  | base t =>
    rw [htype] at h
    cases t with
    | decimal =>
      cases h
      exact .decimal Decimal.isRead_zero
    | enum =>
      cases h
      obtain ⟨first, rest, heq⟩ := List.exists_cons_of_ne_nil (hvalues htype)
      rw [heq]
      exact .listed List.mem_cons_self
    | integer | smallint | bigint =>
      cases h
      exact .integer rfl
    | _ =>
      cases h
      exact .text rfl (by decide)

/-- A default that is kept as text is no zero. -/
theorem plainDefault_cases {zeros : List String} (h : d.plainDefault zeros = .ok v)
    (hempty : "" ∉ zeros) : (∃ b, v = .bytes b) ∨ ∃ s, v = .text s ∧ s ∉ zeros := by
  have htext (s : String) : (if s ∈ zeros then "" else s) ∉ zeros := by
    split_ifs with hs
    · exact hempty
    · exact hs
  unfold plainDefault at h
  split at h
  · cases h
    exact Or.inl ⟨_, rfl⟩
  · obtain ⟨s, -, rfl⟩ := map_eq_ok_iff.mp h
    exact Or.inr ⟨_, rfl, htext _⟩

theorem plainDefault_text {s : String} {zeros : List String} (h : d.default = .text s)
    (hs : s ∉ zeros) : d.plainDefault zeros = .ok (.text s) := by
  simp [plainDefault, h, Doc.shown_text, Except.map, hs]

theorem plainDefault_bytes {b : List UInt8} {zeros : List String} (h : d.default = .bytes b) :
    d.plainDefault zeros = .ok (.bytes b) := by
  rw [plainDefault, h]

/-- The default of a type that is no decimal: an integer, or what is kept as it is written. -/
theorem namedDefault_of_base {t : BaseType} (ht : d.columnType = .base t) (hne : t ≠ .decimal) :
    d.namedDefault = if t.isInteger then
        match d.default.toInt with
        | .ok n => .ok (.int n)
        | .error .unbounded => .error (.fault .unbounded)
        | .error _ => .error d.notNumeric
      else d.plainDefault t.zeros := by
  rw [namedDefault, ht]
  cases t with
  | decimal => exact absurd rfl hne
  | _ => rfl

/-- A default of a limited type is a text among its values. -/
theorem listed_of_checkListed (ht : d.columnType = .base .enum)
    (h : d.checkListed (some v) = .ok ()) :
    (∀ b, v ≠ .bytes b) ∧ ∀ s, v = .text s → s ∈ d.values := by
  have hbase : d.columnType.isBase .enum = true := ColumnType.isBase_iff.mpr ht
  constructor
  · rintro b rfl
    rw [checkListed, if_pos hbase] at h
    cases h
  · rintro s rfl
    rw [checkListed, hbase, Bool.true_and] at h
    split_ifs at h with hs
    simpa using hs

/-- A default that is named fits its type when it is one of the values of a limited one. -/
theorem fits_of_namedDefault (h : d.namedDefault = .ok v)
    (hlisted : d.checkListed (some v) = .ok ()) : v.Fits d.values d.columnType := by
  cases htype : d.columnType with
  | other label =>
    rw [namedDefault, htype] at h
    dsimp only at h
    split_ifs at h with hkey
    rcases plainDefault_cases h List.not_mem_nil with ⟨b, rfl⟩ | ⟨s, rfl, -⟩
    · exact .otherBytes hkey
    · exact .otherText hkey
  | base t =>
    by_cases hdecimal : t = .decimal
    · subst hdecimal
      rw [namedDefault, htype] at h
      dsimp only at h
      split at h
      · next x hx =>
        cases h
        obtain ⟨s, -, hs⟩ := Option.bind_eq_some_iff.mp hx
        exact .decimal (Decimal.isRead_of_ofText? hs)
      · cases h
    · rw [namedDefault_of_base htype hdecimal] at h
      split_ifs at h with hinteger
      · split at h <;> cases h
        exact .integer hinteger
      · have hcases := plainDefault_cases h t.empty_not_mem_zeros
        by_cases henum : t = .enum
        · subst henum
          obtain ⟨hbytes, htext⟩ := listed_of_checkListed htype hlisted
          rcases hcases with ⟨b, rfl⟩ | ⟨s, rfl, -⟩
          · exact absurd rfl (hbytes b)
          · exact .listed (htext s rfl)
        · have hplain : t.isPlain = true := by simp [BaseType.isPlain, hinteger, hdecimal, henum]
          rcases hcases with ⟨b, rfl⟩ | ⟨s, rfl, hs⟩
          · exact .bytes hplain
          · exact .text hplain hs

/-- The default that a draft gets fits its type, and there is one unless a row may do without. -/
theorem normalDefault_cases (h : d.normalDefault = .ok default)
    (hvalues : d.columnType = .base .enum → d.values ≠ []) (hlisted : d.checkListed default = .ok ()) :
    (default = none ∧ d.default.isNull = true ∧ d.isFree = true) ∨
      (∃ v, default = some v ∧ v.Fits d.values d.columnType) ∧
        (d.default.isNull = true → d.isFree = false) := by
  unfold normalDefault at h
  split_ifs at h with hnull hfree
  · cases h
    exact Or.inl ⟨rfl, hnull, hfree⟩
  · right
    cases hzero : d.zeroDefault with
    | error problem =>
      rw [hzero] at h
      cases h
    | ok v =>
      rw [hzero] at h
      cases h
      exact ⟨⟨v, rfl, fits_of_zeroDefault hzero hvalues⟩, fun _ => by simpa using hfree⟩
  · right
    cases hnamed : d.namedDefault with
    | error problem =>
      rw [hnamed] at h
      cases h
    | ok v =>
      rw [hnamed] at h
      cases h
      exact ⟨⟨v, rfl, fits_of_namedDefault hnamed hlisted⟩, fun hn => absurd hn hnull⟩

end ColumnDraft

namespace Column

variable {c : Column} {d : ColumnDraft}

theorem ofDraft_eq_ok_iff :
    Column.ofDraft d = .ok c ↔ d.checkShape = .ok () ∧ ∃ reference default,
      d.readSystemDefault = .ok reference ∧ d.normalDefault = .ok default ∧
        d.checkListed default = .ok () ∧
        c = ⟨d.name, d.columnType, d.size, d.scale, d.nullable, default, reference,
          d.autoIncrement, d.withTimeZone, d.enumValues⟩ := by
  rw [Column.ofDraft]
  simp only [bind_eq_ok_iff]
  constructor
  · rintro ⟨_, hshape, reference, hreference, default, hdefault, _, hlisted, h⟩
    cases h
    exact ⟨hshape, reference, default, hreference, hdefault, hlisted, rfl⟩
  · rintro ⟨hshape, reference, default, hreference, hdefault, hlisted, rfl⟩
    exact ⟨(), hshape, reference, hreference, default, hdefault, (), hlisted, rfl⟩

/-- A column has the name and the type of its draft. -/
theorem parts_of_ofDraft (h : Column.ofDraft d = .ok c) : c.name = d.name ∧ c.type.toDoc = d.type := by
  obtain ⟨-, reference, default, -, -, -, rfl⟩ := ofDraft_eq_ok_iff.mp h
  exact ⟨rfl, ColumnType.toDoc_ofDoc d.type⟩

/-- **A column that is built is normal.** -/
theorem isNormal_of_ofDraft (h : Column.ofDraft d = .ok c) : c.IsNormal := by
  obtain ⟨hshape, reference, default, hreference, hdefault, hlisted, rfl⟩ := ofDraft_eq_ok_iff.mp h
  obtain ⟨hvalues, hnumbered⟩ := ColumnDraft.checkShape_eq_ok_iff.mp hshape
  obtain ⟨hsystem, happart⟩ := ColumnDraft.systemDefault_of_read hreference
  have hcases := ColumnDraft.normalDefault_cases hdefault hvalues hlisted
  -- A draft that names no default and is free gets none.
  have hnone (hnull : d.default.isNull = true) (hfree : d.isFree = true) : default = none := by
    rcases hcases with ⟨hdefault, -, -⟩ | ⟨-, hnot⟩
    · exact hdefault
    · rw [hnot hnull] at hfree
      cases hfree
  refine ⟨congrArg _ (ColumnType.toDoc_ofDoc d.type), hvalues, fun hauto => ?_, fun hne => ?_, ?_, ?_⟩
  · obtain ⟨hnull, hdefaultNull⟩ := hnumbered hauto
    exact ⟨hsystem.mp hnull, hnone hdefaultNull (ColumnDraft.isFree_iff.mpr (Or.inr (Or.inl hauto)))⟩
  · refine hnone (happart hne) (ColumnDraft.isFree_iff.mpr (Or.inr (Or.inr ?_)))
    exact Bool.eq_false_iff.mpr fun hnull => hne (hsystem.mp hnull)
  · rintro hdefaultNone
    rcases hcases with ⟨-, -, hfree⟩ | ⟨⟨v, hv, -⟩, -⟩
    · rcases ColumnDraft.isFree_iff.mp hfree with hnull | hauto | hsys
      · exact Or.inl hnull
      · exact Or.inr (Or.inl hauto)
      · refine Or.inr (Or.inr fun hreferenceNone => ?_)
        rw [hsystem.mpr hreferenceNone] at hsys
        cases hsys
    · exact absurd (hv.symm.trans hdefaultNone) nofun
  · rintro v hv
    rcases hcases with ⟨hdefaultNone, -, -⟩ | ⟨⟨w, hw, hfits⟩, -⟩
    · exact absurd (hdefaultNone.symm.trans hv) nofun
    · rw [Option.some.inj (hv.symm.trans hw)]
      exact hfits

end Column

/-! ## Building a normal column again -/

/-- What a document says for a literal default. -/
def Literal.written : Literal → Doc
  | .bytes b => .bytes b
  | .decimal x => .text x.toFixed
  | .int n => .int n
  | .text s => .text s

/-- The literal that is read from a document; decimals are respelled. -/
def Literal.respelled : Literal → Literal
  | .decimal x => .decimal x.respelled
  | v => v

/-- A default, a value that states it and the default that is read from that value.  A decimal is
read from the text of the value. -/
inductive Literal.ReadsAs : Option Literal → Doc → Option Literal → Prop where
  | null : ReadsAs none .null none
  | text (s : String) : ReadsAs (some (.text s)) (.text s) (some (.text s))
  | bytes (b : List UInt8) : ReadsAs (some (.bytes b)) (.bytes b) (some (.bytes b))
  | int (n : Int) : ReadsAs (some (.int n)) (.int n) (some (.int n))
  | decimal {x y : Decimal} {value : Doc} (hvalue : value.isNull = false)
    (h : value.shown.toOption.bind Decimal.ofText? = some y) :
    ReadsAs (some (.decimal x)) value (some (.decimal y))

namespace Literal.ReadsAs

variable {stated default : Option Literal} {value : Doc}

/-- Only the value of no default is null. -/
theorem isNull_iff (h : ReadsAs stated value default) : value.isNull = true ↔ stated = none := by
  cases h with
  | decimal hvalue _ => simp [hvalue]
  | _ => simp [Doc.isNull]

theorem eq_none_iff (h : ReadsAs stated value default) : default = none ↔ stated = none := by
  cases h <;> simp

end Literal.ReadsAs

namespace Column

/-- The column with the default that is read from its document. -/
def respelled {ν : Type} (c : Column ν) : Column ν :=
  { c with default := c.default.map Literal.respelled }

/-- What the document of a column says about it. -/
def draft {ν : Type} (c : Column ν) : ColumnDraft ν :=
  ⟨c.name, c.type.toDoc, c.size, c.scale, c.nullable, (c.default.map Literal.written).getD .null,
    (c.systemDefault.map fun r => Doc.text r.spelling).getD .null, c.autoIncrement, c.withTimeZone,
    c.enumValues⟩

/-- The default of the column is no number that is not a number. -/
def HasNumber {ν : Type} (c : Column ν) : Prop :=
  ∀ x, c.default = some (.decimal x) → x.isNan = false

/-- The draft of a column that states its default as this value. -/
def draftWith (c : Column) (default : Doc) : ColumnDraft :=
  ⟨c.name, c.type.toDoc, c.size, c.scale, c.nullable, default,
    (c.systemDefault.map fun r => Doc.text r.spelling).getD .null, c.autoIncrement, c.withTimeZone,
    c.enumValues⟩

variable {c : Column} {v w : Literal} {value : Doc} {default : Option Literal}

theorem isNull_systemDefault_draftWith :
    (c.draftWith value).systemDefault.isNull = true ↔ c.systemDefault = none := by
  cases hsystem : c.systemDefault with
  | none => simp [draftWith, hsystem, Doc.isNull]
  | some r => simp [draftWith, hsystem, Doc.isNull]

theorem readSystemDefault_draftWith (h : c.IsNormal)
    (hread : Literal.ReadsAs c.default value default) :
    (c.draftWith value).readSystemDefault = .ok c.systemDefault := by
  cases hsystem : c.systemDefault with
  | none =>
    rw [ColumnDraft.readSystemDefault, if_pos (isNull_systemDefault_draftWith.mpr hsystem)]
  | some r =>
    have hvalue : (c.draftWith value).default.isNull = true :=
      hread.isNull_iff.mpr (h.system (by simp [hsystem]))
    have hwritten : (c.draftWith value).systemDefault = .text r.spelling := by
      simp [draftWith, hsystem]
    rw [ColumnDraft.readSystemDefault, hvalue, hwritten]
    simp [Doc.isNull, SystemReference.spelled?_spelling]

/-- A default that fits is read again. -/
theorem namedDefault_draftWith (hlabel : ColumnType.ofDoc c.type.toDoc = c.type)
    (hfits : v.Fits (c.enumValues.getD []) c.type)
    (hread : Literal.ReadsAs (some v) value (some w)) :
    (c.draftWith value).namedDefault = .ok w := by
  have htype : (c.draftWith value).columnType = c.type := hlabel
  have hwritten : (c.draftWith value).default = value := rfl
  have hbase {t : BaseType} (ht : c.type = .base t) (hne : t ≠ .decimal) :=
    ColumnDraft.namedDefault_of_base (htype.trans ht) hne
  generalize hct : c.type = type at hfits
  cases hfits with
  | @integer t n hinteger =>
    cases hread
    have hne : t ≠ .decimal := by
      rintro rfl
      cases hinteger
    rw [hbase hct hne, if_pos hinteger]
    rfl
  | @decimal x _ =>
    cases hread with
    | decimal _ hy =>
      rw [ColumnDraft.namedDefault, htype, hct, hwritten]
      simp [hy]
  | listed hs =>
    cases hread
    have hzeros := BaseType.zeros_of_enum
    rw [hbase hct (by decide), if_neg (by decide),
      ColumnDraft.plainDefault_text hwritten (by simp [hzeros])]
  | @text t s ht hs =>
    cases hread
    simp only [BaseType.isPlain, Bool.and_eq_true, Bool.not_eq_true', bne_iff_ne] at ht
    rw [hbase hct ht.1.2, if_neg (by simp [ht.1.1]), ColumnDraft.plainDefault_text hwritten hs]
  | @bytes t b ht =>
    cases hread
    simp only [BaseType.isPlain, Bool.and_eq_true, Bool.not_eq_true', bne_iff_ne] at ht
    rw [hbase hct ht.1.2, if_neg (by simp [ht.1.1]), ColumnDraft.plainDefault_bytes hwritten]
  | otherText hkey =>
    cases hread
    rw [ColumnDraft.namedDefault, htype, hct]
    simp [hkey, ColumnDraft.plainDefault_text hwritten]
  | otherBytes hkey =>
    cases hread
    rw [ColumnDraft.namedDefault, htype, hct]
    simp [hkey, ColumnDraft.plainDefault_bytes hwritten]

/-- A default that fits is one of the values of a limited type. -/
theorem checkListed_draftWith (hlabel : ColumnType.ofDoc c.type.toDoc = c.type)
    (hfits : v.Fits (c.enumValues.getD []) c.type)
    (hread : Literal.ReadsAs (some v) value (some w)) :
    (c.draftWith value).checkListed (some w) = .ok () := by
  have htype : (c.draftWith value).columnType = c.type := hlabel
  have hvalues : (c.draftWith value).values = c.enumValues.getD [] := rfl
  generalize hct : c.type = type at hfits
  cases hread with
  | int n => rfl
  | decimal _ _ => rfl
  | text s =>
    cases hfits with
    | listed hs => simp [ColumnDraft.checkListed, hvalues, hs]
    | @text t _ ht _ =>
      have hne : t ≠ .enum := by simpa using (Bool.and_eq_true_iff.mp ht).2
      simp [ColumnDraft.checkListed, htype, hct, ColumnType.isBase, hne]
    | otherText => simp [ColumnDraft.checkListed, htype, hct, ColumnType.isBase]
  | bytes b =>
    cases hfits with
    | @bytes t _ ht =>
      have hne : t ≠ .enum := by simpa using (Bool.and_eq_true_iff.mp ht).2
      simp [ColumnDraft.checkListed, htype, hct, ColumnType.isBase, hne]
    | otherBytes => simp [ColumnDraft.checkListed, htype, hct, ColumnType.isBase]

/-- **A normal column is built again** from a draft that states its default. -/
theorem ofDraft_draftWith (h : c.IsNormal) (hread : Literal.ReadsAs c.default value default) :
    Column.ofDraft (c.draftWith value) = .ok { c with default := default } := by
  have htype : (c.draftWith value).columnType = c.type := h.label
  have hshape : (c.draftWith value).checkShape = .ok () := by
    refine ColumnDraft.checkShape_eq_ok_iff.mpr ⟨fun ht => h.values (htype ▸ ht), fun hauto => ?_⟩
    obtain ⟨hsystem, hdefault⟩ := h.numbered hauto
    exact ⟨isNull_systemDefault_draftWith.mpr hsystem, hread.isNull_iff.mpr hdefault⟩
  refine ofDraft_eq_ok_iff.mpr ⟨hshape, c.systemDefault, default,
    readSystemDefault_draftWith h hread, ?_, ?_, by rw [htype]; rfl⟩
  · cases hstated : c.default with
    | none =>
      have hfree : (c.draftWith value).isFree = true := by
        refine ColumnDraft.isFree_iff.mpr ?_
        rcases h.given hstated with hnull | hauto | hsystem
        · exact Or.inl hnull
        · exact Or.inr (Or.inl hauto)
        · refine Or.inr (Or.inr (Bool.eq_false_iff.mpr fun hnull => ?_))
          exact hsystem (isNull_systemDefault_draftWith.mp hnull)
      have hnull : (c.draftWith value).default.isNull = true := hread.isNull_iff.mpr hstated
      rw [ColumnDraft.normalDefault, if_pos hnull, if_pos hfree, hread.eq_none_iff.mpr hstated]
    | some v =>
      have hnull : ¬ (c.draftWith value).default.isNull = true := fun hnull => by
        rw [hread.isNull_iff.mp hnull] at hstated
        cases hstated
      rw [hstated] at hread
      obtain ⟨w, rfl⟩ : ∃ w, default = some w := by cases hread <;> exact ⟨_, rfl⟩
      rw [ColumnDraft.normalDefault, if_neg hnull,
        namedDefault_draftWith h.label (h.fits v hstated) hread]
      rfl
  · cases hstated : c.default with
    | none =>
      rw [hread.eq_none_iff.mpr hstated]
      rfl
    | some v =>
      rw [hstated] at hread
      obtain ⟨w, rfl⟩ : ∃ w, default = some w := by cases hread <;> exact ⟨_, rfl⟩
      exact checkListed_draftWith h.label (h.fits v hstated) hread

/-- The document of a normal column states its default, a decimal with all its digits. -/
theorem readsAs_written (h : c.IsNormal) (hnumber : c.HasNumber) :
    Literal.ReadsAs c.default ((c.default.map Literal.written).getD .null)
      (c.default.map Literal.respelled) := by
  cases hdefault : c.default with
  | none => exact .null
  | some v =>
    have hfits := h.fits v hdefault
    cases v with
    | text s => exact .text s
    | bytes b => exact .bytes b
    | int n => exact .int n
    | decimal x =>
      generalize c.type = type at hfits
      cases hfits with
      | decimal hx => exact .decimal rfl (Decimal.ofText?_toFixed hx (hnumber x hdefault))

/-- A normal column is built again from what its document says, with its default respelled. -/
theorem ofDraft_draft (h : c.IsNormal) (hnumber : c.HasNumber) :
    Column.ofDraft c.draft = .ok c.respelled :=
  ofDraft_draftWith h (readsAs_written h hnumber)

/-! ## Columns with any names -/

section Named

variable {c : Column Doc} {d : ColumnDraft Doc}

/-- A column whose name may be any value is built as the one whose name is the text of it. -/
theorem ofNamedDraft_eq_ok_iff :
    Column.ofNamedDraft d = .ok c ↔
      ∃ t, Column.ofDraft (d.rename d.name.display) = .ok t ∧ c = t.rename d.name := by
  rw [ofNamedDraft, mapError_eq_ok_iff, map_eq_ok_iff]

/-- Whether a column is normal does not depend on its name. -/
theorem IsNormal.rename {ν μ : Type} {c : Column ν} (h : c.IsNormal) (name : μ) :
    (c.rename name).IsNormal :=
  ⟨h.label, h.values, h.numbered, h.system, h.given, h.fits⟩

theorem isNormal_of_ofNamedDraft (h : Column.ofNamedDraft d = .ok c) : c.IsNormal := by
  obtain ⟨t, ht, rfl⟩ := ofNamedDraft_eq_ok_iff.mp h
  exact (isNormal_of_ofDraft ht).rename d.name

/-- A column has the name and the type of its draft. -/
theorem parts_of_ofNamedDraft (h : Column.ofNamedDraft d = .ok c) :
    c.name = d.name ∧ c.type.toDoc = d.type := by
  obtain ⟨t, ht, rfl⟩ := ofNamedDraft_eq_ok_iff.mp h
  exact ⟨rfl, (parts_of_ofDraft ht).2⟩

/-- A normal column is built again from what its document says, whatever its name is. -/
theorem ofNamedDraft_draft (h : c.IsNormal) (hnumber : c.HasNumber) :
    Column.ofNamedDraft c.draft = .ok c.respelled :=
  ofNamedDraft_eq_ok_iff.mpr ⟨_, ofDraft_draft (h.rename c.name.display) hnumber, rfl⟩

end Named

end Column

end SchemaPlan
