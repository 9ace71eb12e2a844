import Mathlib.Tactic.NormNum
import SchemaPlan.Proofs.Column.DefaultText
import SchemaPlan.Proofs.Column.Normal
import SchemaPlan.Proofs.Column.Typed
import SchemaPlan.Proofs.Sql.Numeral

/-!
# Defaults are read back

What a database reads from the default clause of a column: a constant, which is a number or a run of
bytes.  It stands for the default of the column, unless bytes are the default of a type of time, for
these are written as they are shown in messages.

* `Literal.readConstant_sql` says what is read from a default that fits its type.
* `Column.default_is_read_back` says of every column that is built whether its default is written,
  and whether it is read back.
-/
namespace SchemaPlan

open SchemaPlan.Sql SchemaPlan.Text

/-! ## Constants -/

namespace Sql

/-- What a numeral or a literal is read as. -/
inductive Constant where
  | number (value : ℚ)
  | bytes (content : List UInt8)

/-- Reads the constant at the front; what stands behind it is left. -/
def readConstant (d : Dialect) (s : List Char) : Option (Constant × List Char) :=
  match readLiteral d s with
  | some (content, rest) => some (.bytes content, rest)
  | none => (readNumeral s).map fun read => (.number read.1, read.2)

variable {d : Dialect} {rest : List Char}

theorem readConstant_textLiteral (s : String) (hrest : Ends rest) :
    readConstant d ((textLiteral d s).toList ++ rest) = some (.bytes (utf8 s), rest) := by
  rw [readConstant, readLiteral_textLiteral d s hrest.stops]

theorem readConstant_literal (c : Content) (hrest : Ends rest) :
    readConstant d ((literal d c).toList ++ rest) = some (.bytes c.toBytes, rest) := by
  rw [readConstant, readLiteral_literal d c hrest.stops]

theorem readConstant_toFixed {x : Decimal} {q : ℚ} (hx : x.value? = some q) (hrest : Ends rest) :
    readConstant d (x.toFixed.toList ++ rest) = some (.number q, rest) := by
  have hnone : readLiteral d (x.toFixed.toList ++ rest) = none := by
    cases x with
    | finite negative c e =>
      obtain ⟨first, others, hcons, -, -⟩ := Decimal.unsignedFixed_cons c e
      rw [Decimal.toFixed_finite, String.toList_ofList]
      refine readLiteral_numeral d ?_ (Decimal.isNumeral_fixed negative c e) hrest
      rw [hcons]
      exact List.append_ne_nil_of_right_ne_nil _ (List.cons_ne_nil _ _)
    | infinite negative => cases hx
    | nan negative signalling payload => cases hx
  rw [readConstant, hnone, readNumeral_toFixed hx hrest]
  rfl

end Sql

theorem Decimal.value?_ofInt (n : Int) : (Decimal.ofInt n).value? = some (n : ℚ) := by
  rw [ofInt, value?, zpow_zero, mul_one, Option.some.injEq]
  by_cases hn : n < 0
  · have habs : (n.natAbs : Int) = -n := by omega
    rw [decide_eq_true hn, signFactor, if_pos rfl, ← Int.cast_natCast, habs, Int.cast_neg,
      neg_one_mul, neg_neg]
  · have habs : (n.natAbs : Int) = n := by omega
    rw [decide_eq_false hn, signFactor, if_neg Bool.false_ne_true, ← Int.cast_natCast, habs,
      one_mul]

/-! ## No time at all -/

/-- The day that stands for no day: all zeros, or the first one where a date must be one of the
calendar. -/
def Dialect.zeroDay : Dialect → String
  | mysql => "0000-00-00"
  | pgsql => "0001-01-01"

namespace Temporal

/-- What stands for no time at all: no day, midnight, or both. -/
def zeroText (t : Temporal) (d : Dialect) : String :=
  match t with
  | date => d.zeroDay
  | time => "00:00:00"
  | datetime => d.zeroDay ++ " 00:00:00"

theorem zeroLiteral_eq (t : Temporal) (d : Dialect) :
    t.zeroLiteral d = textLiteral d (t.zeroText d) := by
  cases t <;> cases d <;> decide

/-- The texts that stand for no time at all are those that a column takes for it. -/
theorem zeroText_mem_zeros (t : Temporal) (d : Dialect) : t.zeroText d ∈ t.zeros := by
  cases t <;> cases d <;> decide

end Temporal

/-! ## What stands for a default -/

/-- Whether the values of a type are numbers. -/
def BaseType.holdsNumbers (t : BaseType) : Bool :=
  t.isInteger || t == .decimal

/-- The constants that stand for a default of a column of this type: a number for the same number,
a zero of the type of time for the empty text, the characters of any other text, the same bytes. -/
inductive Sql.Constant.StandsFor (t : BaseType) (d : Dialect) : Constant → Literal → Prop where
  | integer {n : Int} (ht : t.isInteger = true) : StandsFor t d (.number n) (.int n)
  | decimal {x : Decimal} {q : ℚ} (ht : t = .decimal) (hx : x.value? = some q) :
    StandsFor t d (.number q) (.decimal x)
  | zero {temporal : Temporal} (ht : t.temporal? = some temporal) :
    StandsFor t d (.bytes (utf8 (temporal.zeroText d))) (.text "")
  | text {s : String} (ht : t.holdsNumbers = false) (hs : s ≠ "" ∨ t.temporal? = none) :
    StandsFor t d (.bytes (utf8 s)) (.text s)
  | bytes {b : List UInt8} (ht : t.holdsNumbers = false) : StandsFor t d (.bytes b) (.bytes b)

namespace Literal

/-- The default is bytes, and those of a type of time. -/
def IsTimeBytes (v : Literal) (t : BaseType) : Prop :=
  t.temporal?.isSome = true ∧ ∃ b, v = .bytes b

variable {v : Literal} {t : BaseType} {d : Dialect} {rest : List Char} {values : List String}

/-- A text is at most as long as its bytes. -/
theorem length_le_length_utf8 (s : String) : s.toList.length ≤ (utf8 s).length := by
  rw [utf8]
  induction s.toList with
  | nil => exact Nat.le_refl 0
  | cons c rest ih =>
    rw [List.flatMap_cons, List.length_append, List.length_cons, String.length_utf8EncodeChar]
    have hc := c.utf8Size_pos
    omega

/-- A text is read back, the empty text of a type of time as a zero of the type. -/
theorem readConstant_textDefault {s : String} (ht : t.holdsNumbers = false) (hrest : Ends rest) :
    ∃ k, Constant.StandsFor t d k (.text s) ∧
      readConstant d (((ColumnType.base t).textDefault d s).toList ++ rest) = some (k, rest) := by
  cases htemporal : t.temporal? with
  | some temporal =>
    have hsql : (ColumnType.base t).textDefault d s =
        if s = "" then temporal.zeroLiteral d else textLiteral d s := by
      cases t <;> cases htemporal <;> rfl
    rw [hsql]
    split_ifs with hs
    · rw [hs, temporal.zeroLiteral_eq]
      exact ⟨_, .zero htemporal, readConstant_textLiteral _ hrest⟩
    · exact ⟨_, .text ht (.inl hs), readConstant_textLiteral s hrest⟩
  | none =>
    refine ⟨_, .text ht (.inr htemporal), ?_⟩
    have hsql : (ColumnType.base t).textDefault d s =
        if t = .enum then textLiteral d s else literal d (.text s) := by
      cases t <;> first | rfl | cases htemporal
    rw [hsql]
    split_ifs
    · exact readConstant_textLiteral s hrest
    · exact readConstant_literal (.text s) hrest

/-- Bytes are read back as they are, unless the type is one of time; then the text that shows them
is. -/
theorem readConstant_bytesDefault {b : List UInt8} (hplain : t.isPlain = true) (hrest : Ends rest) :
    readConstant d (((ColumnType.base t).bytesDefault d b).toList ++ rest) =
      some (.bytes (if t.temporal?.isSome then utf8 (quotedBytes b) else b), rest) := by
  have hsql : (ColumnType.base t).bytesDefault d b =
      if t.temporal?.isSome then textLiteral d (quotedBytes b) else literal d (.bytes b) := by
    cases t <;> first | rfl | cases hplain
  rw [hsql]
  split_ifs
  · exact readConstant_textLiteral _ hrest
  · exact readConstant_literal (.bytes b) hrest

/-- The text that shows bytes has more bytes. -/
theorem utf8_quotedBytes_ne (b : List UInt8) : utf8 (quotedBytes b) ≠ b := by
  intro h
  have hlong := (length_lt_length_quotedBytes b).trans_le (length_le_length_utf8 (quotedBytes b))
  rw [h] at hlong
  exact Nat.lt_irrefl _ hlong

theorem holdsNumbers_of_isPlain (h : t.isPlain = true) : t.holdsNumbers = false := by
  cases t <;> first | rfl | cases h

/-- **A default that fits its type** is written as a constant, and the constant stands for it unless
it is bytes of a type of time. -/
theorem readConstant_sql (hfits : v.Fits values (.base t))
    (hfinite : ∀ x, v = .decimal x → x.value? ≠ none) (d : Dialect) (hrest : Ends rest) :
    ∃ k, readConstant d ((v.sql (.base t) d).toList ++ rest) = some (k, rest) ∧
      (k.StandsFor t d v ↔ ¬ v.IsTimeBytes t) := by
  have hother (h : ∀ b, v ≠ .bytes b) : ¬ v.IsTimeBytes t := fun ⟨_, b, hb⟩ => h b hb
  cases hfits with
  | @integer _ n ht =>
    refine ⟨_, ?_, iff_of_true (.integer ht) (hother nofun)⟩
    rw [sql_of_number (x := Decimal.ofInt n) rfl]
    exact readConstant_toFixed (Decimal.value?_ofInt n) hrest
  | @decimal x hread =>
    obtain ⟨q, hq⟩ := Option.ne_none_iff_exists'.mp (hfinite x rfl)
    exact ⟨_, readConstant_toFixed hq hrest, iff_of_true (.decimal rfl hq) (hother nofun)⟩
  | listed hs =>
    obtain ⟨k, hk, hread⟩ := readConstant_textDefault (t := .enum) rfl hrest
    exact ⟨k, hread, iff_of_true hk (hother nofun)⟩
  | text ht hs =>
    obtain ⟨k, hk, hread⟩ := readConstant_textDefault (holdsNumbers_of_isPlain ht) hrest
    exact ⟨k, hread, iff_of_true hk (hother nofun)⟩
  | @bytes _ b ht =>
    refine ⟨_, readConstant_bytesDefault ht hrest, ?_⟩
    by_cases htemporal : t.temporal?.isSome = true
    · rw [if_pos htemporal]
      refine iff_of_false (fun hstands => ?_) fun hnot => hnot ⟨htemporal, b, rfl⟩
      generalize hshown : utf8 (quotedBytes b) = shown at hstands
      cases hstands
      exact utf8_quotedBytes_ne b hshown
    · rw [if_neg htemporal]
      exact iff_of_true (.bytes (holdsNumbers_of_isPlain ht)) fun h => htemporal h.1

/-- The default, if it is an integer, is short enough to be written. -/
def IsWritable : Literal → Prop
  | int n => n.natAbs < Numeral.unwritten
  | _ => True

theorem checkWritable_eq_ok_iff : v.checkWritable = .ok () ↔ v.IsWritable := by
  cases v with
  | text s => exact iff_of_true rfl trivial
  | bytes b => exact iff_of_true rfl trivial
  | int n =>
    have hwritable : Numeral.isWritable n = true ↔ (int n).IsWritable := decide_eq_true_iff
    rw [← hwritable]
    cases hn : Numeral.isWritable n <;> simp [checkWritable, hn]
  | decimal x => exact iff_of_true rfl trivial

end Literal

/-! ## Columns -/

namespace Column

/-- The default of a definition alone. -/
def Parts.onlyDefault : Parts :=
  ⟨false, false, false, true, false⟩

variable {c : Column} {v : Literal}

/-- The default clause of a column that has a literal default, if it is no integer that is too long. -/
theorem partsSql_onlyDefault (h : c.IsNormal) (hdefault : c.default = some v) (table : String)
    (t : Target) :
    c.partsSql table t .onlyDefault =
      (do v.checkWritable; return "default " ++ v.sql c.type t.dialect) := by
  have hauto : c.autoIncrement = false := by
    rw [← Bool.not_eq_true]
    intro hauto
    rw [(h.numbered hauto).2] at hdefault
    cases hdefault
  have hsystem : c.systemDefault = none := by
    by_contra hne
    rw [h.system hne] at hdefault
    cases hdefault
  simp only [partsSql, Parts.onlyDefault, partsWith, checkDefault, hdefault, tail, hauto,
    defaultSql, plainDefaultSql, hsystem]
  rfl

/-- **A default is read back.**  The default clause of a column that is built with a literal default
of its type is written exactly when it is no integer that is too long.  Behind the first word stands
one constant, which is read up to its end whatever follows, and it stands for the default
unless that is bytes of a type of time. -/
theorem default_is_read_back {draft : ColumnDraft} {b : BaseType}
    (hbuilt : Column.ofDraft draft = .ok c) (htype : c.type = .base b) (hdefault : c.default = some v)
    (hfinite : ∀ x, v = .decimal x → x.value? ≠ none) (table : String) (t : Target) :
    ((∃ sql, c.partsSql table t .onlyDefault = .ok sql) ↔ v.IsWritable) ∧
    ∀ sql, c.partsSql table t .onlyDefault = .ok sql →
      ∃ constant, sql = "default " ++ constant ∧
        ∀ rest, Ends rest →
          ∃ k, readConstant t.dialect (constant.toList ++ rest) = some (k, rest) ∧
            (k.StandsFor b t.dialect v ↔ ¬ v.IsTimeBytes b) := by
  have hnormal := isNormal_of_ofDraft hbuilt
  have hfits := hnormal.fits v hdefault
  rw [htype] at hfits
  rw [partsSql_onlyDefault hnormal hdefault, htype, ← Literal.checkWritable_eq_ok_iff]
  constructor
  · simp only [bind_pure_eq_ok_iff]
    constructor
    · rintro ⟨sql, _, hwritable, -⟩
      exact hwritable
    · intro hwritable
      exact ⟨_, (), hwritable, rfl⟩
  · intro sql hsql
    obtain ⟨_, -, rfl⟩ := (bind_pure_eq_ok_iff _ _ _).mp hsql
    exact ⟨_, rfl, fun rest hrest => Literal.readConstant_sql hfits hfinite t.dialect hrest⟩

end Column

/-! ## A price and a day -/

/-- What a document says about a price of one and a half. -/
def priceDraft : ColumnDraft :=
  ⟨"price", .text "decimal", 10, 2, true, .text "1.50", .null, false, false, none⟩

/-- The column with this price. -/
def priceColumn : Column :=
  ⟨"price", .base .decimal, 10, 2, true, some (.decimal (.finite false 150 (-2))), none, false,
    false, none⟩

/-- A column whose default is a day that is given by its bytes. -/
def dayColumn : Column :=
  ⟨"day", .base .date, 0, 0, true, some (.bytes (utf8 "2020-01-01")), none, false, false, none⟩

/-- The price is written with its digits and read back in front of the next column. -/
theorem price_is_read_back :
    Column.ofDraft priceDraft = .ok priceColumn ∧
      priceColumn.partsSql "book" ⟨.pgsql, ""⟩ .onlyDefault = .ok "default 1.50" ∧
      readConstant .pgsql "1.50, day date".toList =
        some (.number (3 / 2), ", day date".toList) := by
  have hbuilt : Column.ofDraft priceDraft = .ok priceColumn := rfl
  have hsql : priceColumn.partsSql "book" ⟨.pgsql, ""⟩ .onlyDefault = .ok "default 1.50" := rfl
  have hfinite : ∀ x, Literal.decimal (.finite false 150 (-2)) = .decimal x → x.value? ≠ none := by
    rintro _ ⟨⟩
    exact Option.some_ne_none _
  have hends : Ends ", day date".toList := by
    refine ⟨fun c hc => ?_, by decide⟩
    obtain rfl : ',' = c := Option.some.inj hc
    decide
  obtain ⟨constant, hconstant, hread⟩ :=
    (Column.default_is_read_back hbuilt rfl rfl hfinite "book" ⟨.pgsql, ""⟩).2 _ hsql
  obtain rfl : "1.50" = constant := (String.append_right_inj "default ").mp hconstant
  obtain ⟨k, hk, hstands⟩ := hread _ hends
  refine ⟨hbuilt, hsql, hk.trans ?_⟩
  have hnumber := hstands.mpr fun h => absurd h.1 (by decide)
  cases hnumber with
  | @decimal _ q _ hq =>
    obtain rfl := Option.some.inj hq
    norm_num [Decimal.signFactor]

/-- The day is written with the marks that show bytes, which are read as part of it. -/
theorem day_is_not_read_back :
    Column.ofDraft dayColumn.draft = .ok dayColumn ∧
      dayColumn.partsSql "book" ⟨.mysql, ""⟩ .onlyDefault = .ok "default 'b\\'2020-01-01\\''" ∧
      readConstant .mysql "'b\\'2020-01-01\\''".toList =
        some (.bytes (utf8 "b'2020-01-01'"), []) ∧
      ¬ (Constant.bytes (utf8 "b'2020-01-01'")).StandsFor .date .mysql
        (.bytes (utf8 "2020-01-01")) := by
  have hread : readLiteral .mysql "'b\\'2020-01-01\\''".toList =
      some (utf8 "b'2020-01-01'", []) := by decide +kernel
  refine ⟨rfl, by decide +kernel, by rw [readConstant, hread], fun h => ?_⟩
  generalize hshown : utf8 "b'2020-01-01'" = shown at h
  cases h
  exact absurd hshown (by decide +kernel)

end SchemaPlan
