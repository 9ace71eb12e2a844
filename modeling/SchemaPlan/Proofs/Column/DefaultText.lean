import Mathlib.Tactic.SplitIfs
import SchemaPlan.Column.Sql
import SchemaPlan.Proofs.Number.Numerals
import SchemaPlan.Proofs.Sql.Escape

/-!
# How a default is spelled

On the dialect without backslashes a default that is text stands between apostrophes or is decoded
from hexadecimal bytes, and the same default can be spelled differently for two types: the empty
text is a zero of its own for every type of time, and the types of time and the limited types spell
everything between apostrophes.

* `Literal.sql_eq_iff` says which defaults are spelled alike for two types.
* `Literal.sql_ne_toFixed` tells the spelling of a text from that of a number.
-/
namespace SchemaPlan

open SchemaPlan.Sql SchemaPlan.Text

/-! ## Apostrophes -/

theorem apostrophe_mem_textLiteral (s : String) : apostrophe ∈ (textLiteral .pgsql s).toList := by
  simp [textLiteral, apostrophe]

theorem apostrophe_mem_literal (c : Content) : apostrophe ∈ (literal .pgsql c).toList := by
  unfold literal
  split_ifs
  · simp [hexLiteral, apostrophe]
  · exact apostrophe_mem_textLiteral _

/-- Text that is decoded from bytes does not begin with an apostrophe. -/
theorem hexLiteral_ne_textLiteral (c : Content) (s : String) :
    hexLiteral .pgsql c ≠ textLiteral .pgsql s := by
  intro h
  have hchars := congrArg (fun s => s.toList.head?) h
  simp [hexLiteral, textLiteral] at hchars

theorem not_isNumeral_apostrophe : ¬ Decimal.IsNumeral apostrophe := by
  rintro (h | h | h)
  · exact absurd h (by decide)
  · exact absurd h (by decide)
  · exact absurd h (by decide)

theorem apostrophe_not_mem_digits (n : Nat) : apostrophe ∉ Numeral.digits n :=
  fun h => not_isNumeral_apostrophe (Or.inl (Numeral.isDigit_digits n _ h))

theorem apostrophe_not_mem_sign (negative : Bool) : apostrophe ∉ Decimal.sign negative := by
  cases negative <;> decide

theorem apostrophe_not_mem_nonFiniteText {name : String} (h : apostrophe ∉ name.toList)
    (negative : Bool) (payload : Nat) :
    apostrophe ∉ Decimal.nonFiniteText negative name payload := by
  unfold Decimal.nonFiniteText
  split_ifs <;> simp [apostrophe_not_mem_sign, apostrophe_not_mem_digits, h]

/-- No numeral has an apostrophe. -/
theorem apostrophe_not_mem_toFixed (x : Decimal) : apostrophe ∉ x.toFixed.toList := by
  cases x with
  | finite negative c e =>
    rw [Decimal.toFixed_finite, String.toList_ofList]
    exact fun h => not_isNumeral_apostrophe (Decimal.isNumeral_fixed negative c e _ h)
  | infinite negative =>
    rw [Decimal.toFixed, String.toList_ofList]
    exact apostrophe_not_mem_nonFiniteText (by decide) negative 0
  | nan negative signalling payload =>
    rw [Decimal.toFixed, String.toList_ofList]
    cases signalling
    · exact apostrophe_not_mem_nonFiniteText (by decide) negative payload
    · exact apostrophe_not_mem_nonFiniteText (by decide) negative payload

/-! ## Bytes that are shown -/

theorem length_of_escapeControl? {quote c : Char} {l : List Char}
    (h : escapeControl? quote c = some l) : 1 ≤ l.length := by
  unfold escapeControl? at h
  split_ifs at h <;> cases h <;> simp

theorem length_escapeByte (quote : Char) (x : UInt8) : 1 ≤ (escapeByte quote x).length := by
  unfold escapeByte
  cases hcontrol : escapeControl? quote (Char.ofNat x.toNat) with
  | some l =>
    simp only [hcontrol]
    exact length_of_escapeControl? hcontrol
  | none =>
    simp only [hcontrol]
    split_ifs <;> simp

/-- Bytes between quotes are longer than the bytes. -/
theorem length_lt_length_quotedBytes (b : List UInt8) :
    b.length < (quotedBytes b).toList.length := by
  have hbytes (quote : Char) : b.length ≤ (b.flatMap (escapeByte quote)).length := by
    induction b with
    | nil => exact Nat.le_refl 0
    | cons x rest ih =>
      rw [List.flatMap_cons, List.length_append, List.length_cons]
      have hx := length_escapeByte quote x
      omega
  have hle := hbytes (quoteFor (b.map fun x => Char.ofNat x.toNat))
  simp only [quotedBytes, String.toList_ofList, List.length_append, List.length_cons,
    List.length_nil]
  omega

theorem quotedBytes_ne_ofBytewise (b : List UInt8) : quotedBytes b ≠ ofBytewise b := by
  intro h
  have hlength := length_lt_length_quotedBytes b
  rw [h, ofBytewise, String.toList_ofList, List.length_map] at hlength
  exact Nat.lt_irrefl _ hlength

/-! ## Two types -/

namespace BaseType

/-- Whether a default of this type stands between apostrophes, whatever it holds. -/
def quotesDefault (t : BaseType) : Bool :=
  t == .enum || t.temporal?.isSome

variable {s t : BaseType} {d : Dialect}

theorem textDefault_of_ne {text : String} (h : text ≠ "") :
    (ColumnType.base t).textDefault d text =
      if t.quotesDefault then textLiteral d text else literal d (.text text) := by
  cases t <;> simp [ColumnType.textDefault, quotesDefault, temporal?, h]

theorem bytesDefault_eq (b : List UInt8) :
    (ColumnType.base t).bytesDefault d b =
      if t.quotesDefault then textLiteral d (quotedBytes b) else literal d (.bytes b) := by
  cases t <;> simp [ColumnType.bytesDefault, quotesDefault, temporal?]

/-- The empty text is spelled alike for types that are the same type of time, or none. -/
theorem textDefault_empty_iff :
    (ColumnType.base s).textDefault .pgsql "" = (ColumnType.base t).textDefault .pgsql "" ↔
      s.temporal? = t.temporal? := by
  cases s <;> cases t <;> decide +kernel

end BaseType

namespace Literal

/-- Whether a default is spelled alike for two types.  Numbers are; text is not when only one of the
types puts it between apostrophes in any case and the other one does not, and the empty text is a
zero of its own for each type of time. -/
def SpelledAlike (v : Literal) (s t : BaseType) : Prop :=
  match v with
  | .text x =>
    if x = "" then s.temporal? = t.temporal?
    else isBinary (.text x) = true → s.quotesDefault = t.quotesDefault
  | .bytes _ => s.quotesDefault = t.quotesDefault
  | _ => True

variable {v : Literal} {s t : BaseType}

theorem text_sql_eq_iff {x : String} (h : x ≠ "") :
    (text x).sql (.base s) .pgsql = (text x).sql (.base t) .pgsql ↔
      (isBinary (.text x) = true → s.quotesDefault = t.quotesDefault) := by
  rw [sql, sql, BaseType.textDefault_of_ne h, BaseType.textDefault_of_ne h]
  cases hbinary : isBinary (.text x) with
  | false =>
    have hplain : literal .pgsql (.text x) = textLiteral .pgsql x := by
      simp [literal, hbinary, Content.bytewise]
    rw [hplain, ite_self, ite_self]
    exact iff_of_true rfl nofun
  | true =>
    have hhex : literal .pgsql (.text x) = hexLiteral .pgsql (.text x) := by
      simp [literal, hbinary]
    have hne := hexLiteral_ne_textLiteral (.text x) x
    rw [hhex]
    cases s.quotesDefault <;> cases t.quotesDefault <;> simp [hne, hne.symm]

theorem bytes_sql_eq_iff {b : List UInt8} :
    (bytes b).sql (.base s) .pgsql = (bytes b).sql (.base t) .pgsql ↔
      s.quotesDefault = t.quotesDefault := by
  have hne : literal .pgsql (.bytes b) ≠ textLiteral .pgsql (quotedBytes b) := by
    unfold literal
    split_ifs
    · exact hexLiteral_ne_textLiteral _ _
    · exact fun h => quotedBytes_ne_ofBytewise b (textLiteral_inj h).symm
  rw [sql, sql, BaseType.bytesDefault_eq, BaseType.bytesDefault_eq]
  cases s.quotesDefault <;> cases t.quotesDefault <;> simp [hne, hne.symm]

/-- A default has one spelling for two types exactly when it is spelled alike. -/
theorem sql_eq_iff : v.sql (.base s) .pgsql = v.sql (.base t) .pgsql ↔ v.SpelledAlike s t := by
  cases v with
  | text x =>
    rw [SpelledAlike]
    split_ifs with h
    · rw [h]
      exact BaseType.textDefault_empty_iff
    · exact text_sql_eq_iff h
  | bytes b => exact bytes_sql_eq_iff
  | int n => exact iff_of_true rfl trivial
  | decimal x => exact iff_of_true rfl trivial

/-- Text and bytes are not spelled like numbers. -/
theorem sql_ne_toFixed (h : v.number? = none) (x : Decimal) : v.sql (.base t) .pgsql ≠ x.toFixed := by
  have hmem : apostrophe ∈ (v.sql (.base t) .pgsql).toList := by
    cases v with
    | text y =>
      rw [sql]
      by_cases hy : y = ""
      · subst hy
        cases t <;> decide +kernel
      · rw [BaseType.textDefault_of_ne hy]
        split_ifs
        · exact apostrophe_mem_textLiteral y
        · exact apostrophe_mem_literal _
    | bytes b =>
      rw [sql, BaseType.bytesDefault_eq]
      split_ifs
      · exact apostrophe_mem_textLiteral _
      · exact apostrophe_mem_literal _
    | int n => cases h
    | decimal y => cases h
  intro heq
  rw [heq] at hmem
  exact apostrophe_not_mem_toFixed x hmem

/-- A number is spelled as a numeral. -/
theorem sql_of_number {x : Decimal} (h : v.number? = some x) (t : ColumnType) (d : Dialect) :
    v.sql t d = x.toFixed := by
  cases v with
  | text y => cases h
  | bytes b => cases h
  | int n =>
    cases h
    by_cases hn : n < 0 <;> simp [sql, Numeral.ofInt, Decimal.ofInt, Decimal.toFixed, Decimal.sign, hn]
  | decimal y =>
    cases h
    rfl

end Literal

end SchemaPlan
