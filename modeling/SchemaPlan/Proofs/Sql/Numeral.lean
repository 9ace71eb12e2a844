import Mathlib.Algebra.Field.Rat
import SchemaPlan.Proofs.Number.Numerals
import SchemaPlan.Proofs.Sql.Reading

/-!
# Reading numerals

How the databases read a numeral at the front of a text: a sign or none, digits, and digits behind a
point.  What is read is a rational number, and the text behind the numeral is left.  An exponent
goes on a numeral, so a text that has one is not read here.

* `readNumeral_toFixed` says that a number that is written with all its digits is read back with its
  exact value.
* `readLiteral_numeral` says that a numeral is not read as a literal.
-/
namespace SchemaPlan

namespace Decimal

/-- What a sign multiplies a number by. -/
def signFactor (negative : Bool) : ℚ :=
  if negative then -1 else 1

/-- The value of a finite number. -/
def value? : Decimal → Option ℚ
  | .finite negative c e => some (signFactor negative * (c * 10 ^ e))
  | _ => none

end Decimal

namespace Sql

open SchemaPlan.Text

/-! ## The reader -/

/-- Whether a character would go on a numeral. -/
def continuesNumeral (c : Char) : Bool :=
  continuesName c || c == '.'

/-- The digits behind a point, if there is one, and what stands behind them. -/
def takeFraction : List Char → List Char × List Char
  | '.' :: tail => (tail.takeWhile Char.isDigit, tail.dropWhile Char.isDigit)
  | tail => ([], tail)

/-- Reads the numeral at the front; its value and what stands behind it. -/
def readNumeral (s : List Char) : Option (ℚ × List Char) :=
  let (negative, body) := Numeral.takeSign s
  let whole := body.takeWhile Char.isDigit
  let (fraction, rest) := takeFraction (body.dropWhile Char.isDigit)
  if whole.isEmpty || rest.head?.any continuesNumeral then none
  else
    some (Decimal.signFactor negative *
      (Nat.ofDigitChars 10 (whole ++ fraction) 0 / 10 ^ fraction.length), rest)

/-- A text that goes on neither a literal nor a numeral in front of it. -/
structure Ends (rest : List Char) : Prop where
  stops : Stops rest
  no_point : rest.head? ≠ some '.'

/-! ## What stands behind digits -/

variable {rest : List Char}

theorem Ends.not_continuesNumeral (h : Ends rest) : rest.head?.any continuesNumeral = false := by
  cases rest with
  | nil => rfl
  | cons c rest =>
    have hname := (h.stops c rfl).2
    have hpoint : c ≠ '.' := fun hc => h.no_point (congrArg some hc)
    simp [continuesNumeral, hname, hpoint]

theorem Ends.not_isDigit (h : Ends rest) : ∀ c ∈ rest.head?, c.isDigit = false := by
  intro c hc
  have hname := (h.stops c hc).2
  rw [continuesName, Bool.or_eq_false_iff, Bool.or_eq_false_iff] at hname
  exact (Bool.or_eq_false_iff.mp hname.1.1).2

theorem Ends.takeFraction (h : Ends rest) : takeFraction rest = ([], rest) := by
  unfold Sql.takeFraction
  split
  · exact absurd rfl h.no_point
  · rfl

variable {ds : List Char}

/-- Digits behind a point are taken up to what ends them. -/
theorem takeFraction_point (hds : ∀ c ∈ ds, c.isDigit = true) (hrest : Ends rest) :
    takeFraction ('.' :: (ds ++ rest)) = (ds, rest) := by
  rw [takeFraction, Numeral.takeWhile_digits hds hrest.not_isDigit,
    Numeral.dropWhile_digits hds hrest.not_isDigit]

/-! ## Numerals -/

/-- Digits and a fraction are read with their sign. -/
theorem readNumeral_append (negative : Bool) {fraction tail : List Char} (hne : ds ≠ [])
    (hds : ∀ c ∈ ds, c.isDigit = true) (htail : ∀ c ∈ tail.head?, c.isDigit = false)
    (hfraction : takeFraction tail = (fraction, rest)) (hrest : Ends rest) :
    readNumeral (Decimal.sign negative ++ (ds ++ tail)) =
      some (Decimal.signFactor negative *
        (Nat.ofDigitChars 10 (ds ++ fraction) 0 / 10 ^ fraction.length), rest) := by
  have htake := Numeral.takeWhile_digits hds htail
  have hdrop := Numeral.dropWhile_digits hds htail
  have hsome : ds.isEmpty = false := List.isEmpty_eq_false_iff.mpr hne
  have hsign : Numeral.takeSign (Decimal.sign negative ++ (ds ++ tail)) =
      (negative, ds ++ tail) := by
    cases ds with
    | nil => exact absurd rfl hne
    | cons c ds =>
      have hc := Decimal.ne_sign_of_isDigit (hds c List.mem_cons_self)
      exact Decimal.takeSign_sign negative hc (ds ++ tail)
  simp only [readNumeral, hsign, htake, hdrop, hfraction, hsome, hrest.not_continuesNumeral,
    Bool.or_self, Bool.false_eq_true, if_false]

/-- The digits of a natural number have its value. -/
theorem readNumeral_digits (negative : Bool) (n : Nat) (hrest : Ends rest) :
    readNumeral (Decimal.sign negative ++ (Numeral.digits n ++ rest)) =
      some (Decimal.signFactor negative * n, rest) := by
  have hvalue : Nat.ofDigitChars 10 (Numeral.digits n) 0 = n := Nat.ofDigitChars_ten_toDigits
  rw [readNumeral_append negative (Numeral.digits_ne_nil n) (Numeral.isDigit_digits n)
    hrest.not_isDigit hrest.takeFraction hrest, List.append_nil, hvalue]
  simp

/-- **A number that is written with all its digits** is read back with its exact value. -/
theorem readNumeral_toFixed {x : Decimal} {q : ℚ} (hx : x.value? = some q) (hrest : Ends rest) :
    readNumeral (x.toFixed.toList ++ rest) = some (q, rest) := by
  cases x with
  | infinite negative => cases hx
  | nan negative signalling payload => cases hx
  | finite negative c e =>
    cases hx
    rw [Decimal.toFixed_finite, String.toList_ofList, List.append_assoc]
    by_cases he : e < 0
    · obtain ⟨w, f, hpointed, hdigits, hw, hlength, hvalue⟩ :=
        Decimal.pointed_eq (Numeral.isDigit_digits c) e.natAbs
      have hboth := hdigits
      rw [List.forall_mem_append] at hboth
      rw [Decimal.digitsValue_digits, Decimal.digitsValue_eq_ofDigitChars hdigits] at hvalue
      rw [Decimal.unsignedFixed, if_pos he, hpointed, List.append_assoc, List.cons_append]
      have hpoint : ∀ c ∈ ('.' :: (f ++ rest)).head?, c.isDigit = false := by
        rintro _ ⟨⟩
        decide
      rw [readNumeral_append negative hw hboth.1 hpoint (takeFraction_point hboth.2 hrest) hrest,
        hvalue, hlength]
      have hexponent : e = -(e.natAbs : Int) := by omega
      rw [hexponent, Int.natAbs_neg, Int.natAbs_natCast, zpow_neg, zpow_natCast, div_eq_mul_inv]
    · have hexponent : e = (e.natAbs : Int) := by omega
      rw [Decimal.unsignedFixed_of_not_neg he, readNumeral_digits negative _ hrest]
      conv_rhs => rw [hexponent, zpow_natCast]
      push_cast
      rfl

example : readNumeral "-0.050, a".toList = some (-1 / 20, ", a".toList) := by
  decide +kernel

theorem dropPrefix?_eq_none {front s : List Char} (h : ∀ tail, s ≠ front ++ tail) :
    s.dropPrefix? front = none := by
  cases hdrop : s.dropPrefix? front with
  | none => rfl
  | some tail =>
    obtain ⟨same, hs, heq⟩ := List.dropPrefix?_eq_some_iff.mp hdrop
    rw [eq_of_beq heq] at hs
    exact absurd hs (h tail)

/-- A numeral is not read as a literal. -/
theorem readLiteral_numeral (d : Dialect) {s : List Char} (hne : s ≠ [])
    (hs : ∀ c ∈ s, Decimal.IsNumeral c) (hrest : Ends rest) : readLiteral d (s ++ rest) = none := by
  have hnot {letter : Char} (h : letter.isDigit = false ∧ letter ≠ '.' ∧ letter ≠ '-') :
      letter ∉ s := by
    intro hmem
    rcases hs letter hmem with hdigit | hpoint | hminus
    · rw [h.1] at hdigit
      cases hdigit
    · exact h.2.1 hpoint
    · exact h.2.2 hminus
  obtain ⟨c, s, rfl⟩ := List.exists_cons_of_ne_nil hne
  have hquote : (c :: s ++ rest).head? ≠ some apostrophe := by
    rintro ⟨⟩
    exact hnot (by decide) List.mem_cons_self
  unfold readLiteral
  rw [if_neg hquote]
  cases d with
  | mysql =>
    -- No numeral goes on with the second character of the mark, and nothing that ends one begins
    -- with it.
    have hmark : ∀ tail, c :: s ++ rest ≠ ['0', 'x'] ++ tail := by
      intro tail heq
      cases s with
      | nil =>
        cases heq
        exact absurd (hrest.stops 'x' rfl).2 (by decide)
      | cons next s =>
        cases heq
        exact hnot (by decide) (List.mem_cons_of_mem _ List.mem_cons_self)
    simp only [readHex, dropPrefix?_eq_none hmark]
    rfl
  | pgsql =>
    have hcall : ∀ tail, c :: s ++ rest ≠ ['d', 'e', 'c', 'o', 'd', 'e'] ++ tail := by
      intro tail heq
      obtain rfl := (List.cons.inj heq).1
      exact hnot (by decide) List.mem_cons_self
    simp only [readDecode, dropPrefix?_eq_none hcall]
    rfl

end Sql

end SchemaPlan
