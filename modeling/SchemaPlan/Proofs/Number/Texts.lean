import SchemaPlan.Proofs.Number.Numerals

/-!
# Decimal numbers are told from their texts

The short text of a number keeps its exponent, by the places behind a point or by a power of ten.
So it is read as the number itself, with the zeros at the end of the coefficient; even of what is not
a number it tells the sign, the kind and the payload.

* `Decimal.parts?_scientific` reads digits with a power of ten.
* `Decimal.ofText?_toText` reads the text of any number that can have been read.
-/
namespace SchemaPlan

namespace Decimal

variable {first : Char} {rest : List Char}

/-! ## Powers of ten -/

/-- A power of ten is read with its sign. -/
theorem exponent?_power (n : Int) :
    exponent? ('E' :: (if n < 0 then '-' else '+') :: Numeral.digits n.natAbs) = some n := by
  have hsome : (Numeral.digits n.natAbs).isEmpty = false := by
    simp [Numeral.digits_ne_nil]
  have hall : (Numeral.digits n.natAbs).all Char.isDigit = true :=
    List.all_eq_true.mpr (Numeral.isDigit_digits n.natAbs)
  rw [exponent?, if_pos (by decide)]
  split_ifs with hn
  · have hpower : -(n.natAbs : Int) = n := by omega
    simp only [Numeral.takeSign, hsome, hall, digitsValue_digits, if_true, hpower]
    rfl
  · have hpower : (n.natAbs : Int) = n := by omega
    simp only [Numeral.takeSign, hsome, hall, digitsValue_digits, hpower]
    rfl

/-- Digits with a power of ten are a coefficient, whose last digit stands for that power less the
places behind the point. -/
theorem parts?_scientific (hfirst : first.isDigit = true) (hrest : ∀ c ∈ rest, c.isDigit = true)
    (leading : Int) :
    parts? (scientific (first :: rest) leading) =
      some (digitsValue (first :: rest), leading - (rest.length : Int)) := by
  have hone : ∀ c ∈ [first], c.isDigit = true := List.forall_mem_singleton.mpr hfirst
  have hexponent := exponent?_power leading
  cases rest with
  | nil =>
    have hparts := parts?_of_digits hone (List.cons_ne_nil first []) hexponent
    rw [List.length_nil, Int.natCast_zero, Int.sub_zero]
    exact hparts
  | cons second more =>
    exact parts?_of_point hone (List.cons_ne_nil first []) hrest hexponent

/-! ## Characters -/

theorem isInk_digits (n : Nat) : ∀ c ∈ Numeral.digits n, IsInk c :=
  fun c hc => isInk_of_isDigit (Numeral.isDigit_digits n c hc)

/-- Digits with a power of ten are written with characters that stand for themselves. -/
theorem isInk_scientific (hfirst : first.isDigit = true) (hrest : ∀ c ∈ rest, c.isDigit = true)
    (leading : Int) : ∀ c ∈ scientific (first :: rest) leading, IsInk c := by
  have hpoint : ∀ c ∈ (if rest.isEmpty then [] else '.' :: rest), IsInk c := by
    split_ifs
    · exact List.forall_mem_nil _
    · exact List.forall_mem_cons.mpr
        ⟨⟨by decide, by decide, by decide⟩, fun c hc => isInk_of_isDigit (hrest c hc)⟩
  have hsign : IsInk (if leading < 0 then '-' else '+') := by
    split_ifs
    · exact ⟨by decide, by decide, by decide⟩
    · exact ⟨by decide, by decide, by decide⟩
  refine List.forall_mem_append.mpr ⟨List.forall_mem_cons.mpr ⟨isInk_of_isDigit hfirst, hpoint⟩, ?_⟩
  exact List.forall_mem_cons.mpr ⟨⟨by decide, by decide, by decide⟩,
    List.forall_mem_cons.mpr ⟨hsign, isInk_digits leading.natAbs⟩⟩

/-! ## Texts -/

/-- The short text of a finite number with a power of ten is read as that number. -/
theorem ofText?_scientific {c : Nat} {e : Int} (h : inRange c e = true) (negative : Bool) :
    ofText? (String.ofList (sign negative ++ scientific (Numeral.digits c)
      (e + ((Numeral.digits c).length : Int) - 1))) = some (finite negative c e) := by
  obtain ⟨first, rest, hcons⟩ := List.exists_cons_of_ne_nil (Numeral.digits_ne_nil c)
  have hall := Numeral.isDigit_digits c
  rw [hcons, List.forall_mem_cons] at hall
  obtain ⟨hfirst, hrest⟩ := hall
  have hvalue : digitsValue (first :: rest) = c := by rw [← hcons, digitsValue_digits]
  have hplaces : e + ((first :: rest).length : Int) - 1 - (rest.length : Int) = e := by
    rw [List.length_cons]
    omega
  have hink := isInk_scientific hfirst hrest (e + ((first :: rest).length : Int) - 1)
  have hparts := parts?_scientific hfirst hrest (e + ((first :: rest).length : Int) - 1)
  rw [hvalue, hplaces] at hparts
  have hfinite : finite? negative (scientific (first :: rest)
      (e + ((first :: rest).length : Int) - 1)) = some (finite negative c e) := by
    rw [finite?, hparts]
    exact if_pos h
  rw [hcons]
  -- The text begins with the first digit.
  change ofText? (String.ofList (sign negative ++ first :: _)) = _
  rw [ofText?_sign negative (ne_sign_of_isDigit hfirst) hink, unsigned?_of_isDigit hfirst]
  exact hfinite

/-- A payload is written as digits that have its value, a payload of zero as none. -/
theorem exists_payload (payload : Nat) :
    ∃ ds, (if payload = 0 then [] else Numeral.digits payload) = ds ∧
      (∀ c ∈ ds, c.isDigit = true) ∧ payload? ds = some payload := by
  refine ⟨_, rfl, ?_, ?_⟩
  · split_ifs
    · exact List.forall_mem_nil _
    · exact Numeral.isDigit_digits payload
  · split_ifs with hzero
    · rw [hzero]
      rfl
    · rw [payload?, if_pos (List.all_eq_true.mpr (Numeral.isDigit_digits payload)),
        digitsValue_digits]

/-- What is not a number is told from its name and payload. -/
theorem ofText?_nan (negative signalling : Bool) (payload : Nat) :
    ofText? (nan negative signalling payload).toText = some (nan negative signalling payload) := by
  obtain ⟨ds, hds, hdigits, hpayload⟩ := exists_payload payload
  have hink : ∀ c ∈ ds, IsInk c := fun c hc => isInk_of_isDigit (hdigits c hc)
  have hN : IsInk 'N' := ⟨by decide, by decide, by decide⟩
  have ha : IsInk 'a' := ⟨by decide, by decide, by decide⟩
  have hs : IsInk 's' := ⟨by decide, by decide, by decide⟩
  have hname : ∀ c ∈ 'N' :: 'a' :: 'N' :: ds, IsInk c := by
    simp only [List.forall_mem_cons]
    exact ⟨hN, ha, hN, hink⟩
  cases signalling with
  | true =>
    have htext : (nan negative true payload).toText =
        String.ofList (sign negative ++ 's' :: 'N' :: 'a' :: 'N' :: ds) := by
      simp [toText, nonFiniteText, hds]
    rw [htext, ofText?_sign negative ⟨by decide, by decide⟩ (List.forall_mem_cons.mpr ⟨hs, hname⟩)]
    simp [unsigned?, hpayload]
  | false =>
    have htext : (nan negative false payload).toText =
        String.ofList (sign negative ++ 'N' :: 'a' :: 'N' :: ds) := by
      simp [toText, nonFiniteText, hds]
    rw [htext, ofText?_sign negative ⟨by decide, by decide⟩ hname]
    simp [unsigned?, hpayload]

/-- A number without a power of ten in its text is written with all its digits. -/
theorem toText_of_places {c : Nat} {e : Int} (negative : Bool) (he : e ≤ 0)
    (hleading : leastPositional ≤ e + ((Numeral.digits c).length : Int) - 1) :
    (finite negative c e).toText = (finite negative c e).toFixed := by
  have hshort : (e ≤ 0 && leastPositional ≤ e + ((Numeral.digits c).length : Int) - 1) = true := by
    simp [he, hleading]
  simp only [toText, hshort, if_true, toFixed_finite, unsignedFixed]
  by_cases hzero : e = 0
  · simp [hzero]
  · have hneg : e < 0 := by omega
    simp [hzero, hneg]

/-- **A number is told from its text.** -/
theorem ofText?_toText {d : Decimal} (h : d.IsRead) : ofText? d.toText = some d := by
  cases d with
  | finite negative c e =>
    by_cases hshort : e ≤ 0 ∧ leastPositional ≤ e + ((Numeral.digits c).length : Int) - 1
    · obtain ⟨he, hleading⟩ := hshort
      rw [toText_of_places negative he hleading, ofText?_toFixed h rfl, respelled]
      split_ifs with hneg
      · rfl
      · have hzero : e = 0 := by omega
        simp [hzero]
    · have hlong : (e ≤ 0 && leastPositional ≤ e + ((Numeral.digits c).length : Int) - 1) = false := by
        rw [Bool.and_eq_false_iff, decide_eq_false_iff_not, decide_eq_false_iff_not]
        exact not_and_or.mp hshort
      simp only [toText, hlong, Bool.false_eq_true, if_false]
      exact ofText?_scientific h negative
  | infinite negative => cases negative <;> decide +kernel
  | nan negative signalling payload => exact ofText?_nan negative signalling payload

end Decimal

end SchemaPlan
