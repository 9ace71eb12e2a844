import SchemaPlan.Proofs.Number.Texts
import SchemaPlan.Proofs.Sql.Reading

/-!
# Texts of one line

A text is one line if it holds no line feed.  Texts of several parts are one line exactly when all
their parts are, so what decides about a statement is where a part is taken over as it stands.  A
literal never does this with a line feed: it is not printable, so the content is written as
hexadecimal bytes.  Text between apostrophes takes line feeds over on the dialect that escapes by
doubling, and escapes them on the other one.

* `oneLine_literal` is about contents as literals.
* `oneLine_textLiteral_iff` is about texts between apostrophes.
-/
namespace SchemaPlan

open SchemaPlan.Text

/-- A text without line feeds. -/
def OneLine (s : String) : Prop :=
  '\n' ∉ s.toList

instance (s : String) : Decidable (OneLine s) :=
  inferInstanceAs (Decidable ('\n' ∉ s.toList))

/-! ## Texts of several parts -/

@[simp]
theorem oneLine_append {s t : String} : OneLine (s ++ t) ↔ OneLine s ∧ OneLine t := by
  rw [OneLine, String.toList_append, List.mem_append, not_or]
  rfl

theorem oneLine_ofList {s : List Char} : OneLine (String.ofList s) ↔ ∀ c ∈ s, c ≠ '\n' := by
  rw [OneLine, String.toList_ofList]
  constructor
  · rintro h c hc rfl
    exact h hc
  · intro h hmem
    exact h '\n' hmem rfl

/-- Texts with a separator between them are one line together if each of them is. -/
theorem oneLine_intercalate {separator : String} (hseparator : OneLine separator)
    {texts : List String} :
    OneLine (separator.intercalate texts) ↔ ∀ s ∈ texts, OneLine s := by
  induction texts with
  | nil => simp [OneLine]
  | cons s rest ih =>
    cases rest with
    | nil => simp
    | cons next rest =>
      rw [String.intercalate_cons_cons, oneLine_append, oneLine_append, ih,
        List.forall_mem_cons (l := next :: rest)]
      simp only [hseparator, and_true]

/-- Characters of numerals are no line feeds. -/
theorem Decimal.IsInk.ne_lineFeed {c : Char} (h : Decimal.IsInk c) : c ≠ '\n' := by
  rintro rfl
  exact absurd h.not_blank (by decide)

theorem oneLine_of_ink {s : List Char} (h : ∀ c ∈ s, Decimal.IsInk c) :
    OneLine (String.ofList s) :=
  oneLine_ofList.mpr fun c hc => (h c hc).ne_lineFeed

/-! ## Numerals -/

theorem oneLine_ofNat (n : Nat) : OneLine (Numeral.ofNat n) :=
  oneLine_of_ink (Decimal.isInk_digits n)

theorem oneLine_ofInt (n : Int) : OneLine (Numeral.ofInt n) := by
  apply oneLine_of_ink
  split_ifs
  · rw [List.forall_mem_cons]
    exact ⟨Decimal.IsNumeral.isInk (Or.inr (Or.inr rfl)), Decimal.isInk_digits _⟩
  · exact Decimal.isInk_digits _

theorem oneLine_toFixed (x : Decimal) : OneLine x.toFixed := by
  cases x with
  | finite negative c e =>
    rw [Decimal.toFixed_finite]
    exact oneLine_of_ink fun c hc => (Decimal.isNumeral_fixed _ _ _ c hc).isInk
  | infinite negative => cases negative <;> decide +kernel
  | nan negative signalling payload =>
    rw [Decimal.toFixed, oneLine_ofList, Decimal.nonFiniteText, List.forall_mem_append,
      List.forall_mem_append]
    refine ⟨⟨?_, ?_⟩, ?_⟩
    · exact List.forall_mem_ne'.mpr (by cases negative <;> decide)
    · exact List.forall_mem_ne'.mpr (by cases signalling <;> decide)
    · split_ifs
      · exact List.forall_mem_nil _
      · exact fun c hc => (Decimal.isInk_digits payload c hc).ne_lineFeed

/-! ## System variables -/

theorem oneLine_system (reference : SystemReference) (d : Dialect) :
    OneLine (reference.sql d) := by
  rw [SystemReference.sql]
  cases reference.variable <;> cases d <;> decide +kernel

/-! ## Literals -/

namespace Sql

theorem oneLine_hexLiteral (d : Dialect) (c : Content) : OneLine (hexLiteral d c) := by
  have hdigits : OneLine (String.ofList (hexBytes c.toBytes)) :=
    oneLine_ofList.mpr (forall_mem_hexBytes (by decide) _)
  cases d with
  | mysql =>
    rw [hexLiteral, oneLine_append]
    exact ⟨by decide, hdigits⟩
  | pgsql =>
    rw [hexLiteral, oneLine_append, oneLine_append]
    exact ⟨⟨by decide, hdigits⟩, by decide⟩

/-- No letter of an escape is a line feed, and a line feed has an escape. -/
theorem lineFeed_not_mem_backslashes (c : Char) : '\n' ∉ escapeChar .mysql c := by
  rw [escapeChar]
  cases hletter : escapeLetter? c with
  | none =>
    rw [List.mem_singleton]
    rintro rfl
    cases hletter
  | some letter =>
    have hall : ∀ entry ∈ backslashEscapes, '\n' ∉ ['\\', entry.2] := by decide
    exact hall (c, letter) (escapeLetter?_eq_some_iff.mp hletter)

/-- Where an apostrophe is written twice, a line feed is taken over. -/
theorem lineFeed_not_mem_escapeChar_iff (d : Dialect) (c : Char) :
    '\n' ∉ escapeChar d c ↔ d = .pgsql → c ≠ '\n' := by
  cases d with
  | mysql => exact iff_of_true (lineFeed_not_mem_backslashes c) nofun
  | pgsql =>
    simp only [forall_const]
    rw [escapeChar]
    split_ifs with hc
    · subst hc
      decide
    · rw [List.mem_singleton]
      exact ⟨Ne.symm, Ne.symm⟩

/-- **A text between apostrophes** takes its line feeds over on the dialect that knows no
backslashes. -/
theorem oneLine_textLiteral_iff (d : Dialect) (s : String) :
    OneLine (textLiteral d s) ↔ d = .pgsql → OneLine s := by
  have hquote : OneLine "'" := by decide
  have hchars : OneLine (escape d s) ↔ ∀ c ∈ s.toList, d = .pgsql → c ≠ '\n' := by
    rw [OneLine, escape, String.toList_ofList, escapeChars, List.mem_flatMap]
    simp only [not_exists, not_and, lineFeed_not_mem_escapeChar_iff]
  rw [textLiteral, oneLine_append, oneLine_append, hchars]
  simp only [hquote, true_and, and_true]
  constructor
  · intro h hd hmem
    exact h '\n' hmem hd rfl
  · rintro h c hc hd rfl
    exact h hd hc

/-- The bytes of a text with a line feed are not all printable. -/
theorem isBinary_of_not_oneLine {c : Content} (h : ¬ OneLine c.bytewise) : isBinary c = true := by
  by_contra hplain
  rw [Bool.not_eq_true] at hplain
  have hbyte : 0x0a ∈ utf8 c.bytewise :=
    List.mem_flatMap.mpr ⟨'\n', Decidable.not_not.mp h, by decide⟩
  rw [utf8_bytewise hplain] at hbyte
  exact List.any_eq_false.mp hplain 0x0a hbyte (by decide)

/-- **A literal is one line**, whatever its content. -/
theorem oneLine_literal (d : Dialect) (c : Content) : OneLine (literal d c) := by
  rw [literal]
  split_ifs with hbinary
  · exact oneLine_hexLiteral d c
  · rw [oneLine_textLiteral_iff]
    intro _
    by_contra hbreaks
    exact hbinary (isBinary_of_not_oneLine hbreaks)

end Sql

/-! ## Bytes between quotes -/

/-- A byte between quotes is escaped unless it is printable. -/
theorem lineFeed_not_mem_escapeByte {quote : Char}
    (hquote : quote = apostrophe ∨ quote = doubleQuote) (b : UInt8) :
    '\n' ∉ escapeByte quote b := by
  have hall : ∀ n < 256, '\n' ∉ escapeByte apostrophe (UInt8.ofNat n) ∧
      '\n' ∉ escapeByte doubleQuote (UInt8.ofNat n) := by decide +kernel
  have hb := hall b.toNat b.toNat_lt
  rw [UInt8.ofNat_toNat] at hb
  rcases hquote with rfl | rfl
  · exact hb.1
  · exact hb.2

/-- **Bytes between quotes are one line**, whatever they are. -/
theorem oneLine_quotedBytes (bytes : List UInt8) : OneLine (quotedBytes bytes) := by
  rw [quotedBytes, oneLine_ofList]
  generalize hquote : quoteFor _ = quote
  have hcases : quote = apostrophe ∨ quote = doubleQuote := by
    rw [← hquote, quoteFor]
    split_ifs
    · exact .inr rfl
    · exact .inl rfl
  have hne : quote ≠ '\n' := by rcases hcases with rfl | rfl <;> decide
  rw [List.cons_append, List.cons_append, List.forall_mem_cons, List.forall_mem_cons,
    List.forall_mem_append, List.forall_mem_singleton]
  refine ⟨by decide, hne, ?_, hne⟩
  rintro c hc rfl
  obtain ⟨b, -, hb⟩ := List.mem_flatMap.mp hc
  exact lineFeed_not_mem_escapeByte hcases b hb

end SchemaPlan
