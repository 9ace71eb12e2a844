import Mathlib.Algebra.Group.Nat.Defs
import Mathlib.Data.List.TakeWhile
import Mathlib.Tactic.SplitIfs
import SchemaPlan.Number.DecimalText
import SchemaPlan.Proofs.Doc.Equality

/-!
# Decimal numerals are read back

A number that is written with all its digits is read as a number of the same value.  It is the same
number but for a power of ten that is not negative: its zeros have become digits of the coefficient.

* `Decimal.respelled` is the number that is read.
* `Decimal.ofText?_toFixed` says that it is.
-/
namespace SchemaPlan

open SchemaPlan.Text

/-! ## Digits -/

namespace Numeral

theorem isDigit_digits (n : Nat) : ∀ c ∈ digits n, c.isDigit = true :=
  fun _ h => Nat.isDigit_of_mem_toDigits (by decide) (by decide) h

theorem digits_ne_nil (n : Nat) : digits n ≠ [] :=
  Nat.toDigits_ne_nil

/-- Zeros at the end of the digits are powers of ten. -/
theorem digits_mul_pow {n : Nat} (h : 0 < n) (k : Nat) :
    digits (n * 10 ^ k) = digits n ++ List.replicate k '0' := by
  induction k with
  | zero => simp
  | succ k ih =>
    have hpos : 0 < n * 10 ^ k := Nat.mul_pos h (Nat.pow_pos (by decide))
    have hnext : n * 10 ^ (k + 1) = 10 * (n * 10 ^ k) + 0 := by
      rw [Nat.pow_succ, Nat.add_zero, Nat.mul_comm 10, Nat.mul_assoc]
    have happend := Nat.toDigits_append_toDigits (b := 10) (d := 0) (by decide) hpos (by decide)
    rw [digits, hnext, ← happend, ← digits, ih, Nat.toDigits_zero, List.append_assoc,
      ← List.replicate_succ']

section Run

variable {ds rest : List Char}

/-- A run of digits is taken up to what ends it. -/
theorem takeWhile_digits (hds : ∀ c ∈ ds, c.isDigit = true)
    (hrest : ∀ c ∈ rest.head?, c.isDigit = false) : (ds ++ rest).takeWhile Char.isDigit = ds := by
  rw [List.takeWhile_append_of_pos hds]
  cases rest with
  | nil => exact List.append_nil ds
  | cons c rest =>
    rw [List.takeWhile_cons_of_neg (Bool.eq_false_iff.mp (hrest c rfl)), List.append_nil]

theorem dropWhile_digits (hds : ∀ c ∈ ds, c.isDigit = true)
    (hrest : ∀ c ∈ rest.head?, c.isDigit = false) : (ds ++ rest).dropWhile Char.isDigit = rest := by
  rw [List.dropWhile_append_of_pos hds]
  cases rest with
  | nil => rfl
  | cons c rest => rw [List.dropWhile_cons_of_neg (Bool.eq_false_iff.mp (hrest c rfl))]

end Run

end Numeral

namespace Decimal

/-- Digits have the value that the core library reads from them. -/
theorem digitsValue_eq_ofDigitChars {s : List Char} (h : ∀ c ∈ s, c.isDigit = true) :
    digitsValue s = Nat.ofDigitChars 10 s 0 := by
  have hvalue : ∀ n, (s.filterMap plainDigit?).foldl (fun n d => 10 * n + d) n =
      Nat.ofDigitChars 10 s n := by
    induction s with
    | nil => exact fun _ => rfl
    | cons c rest ih =>
      intro n
      obtain ⟨hc, hrest⟩ := List.forall_mem_cons.mp h
      have hdigit : plainDigit? c = some (c.toNat - 48) := by rw [plainDigit?, if_pos hc]
      rw [List.filterMap_cons_some hdigit, List.foldl_cons]
      exact ih hrest _
  exact hvalue 0

theorem digitsValue_digits (n : Nat) : digitsValue (Numeral.digits n) = n := by
  rw [digitsValue_eq_ofDigitChars (Numeral.isDigit_digits n)]
  exact Nat.ofDigitChars_ten_toDigits

/-- Zeros in front do not count. -/
theorem digitsValue_zeros (k : Nat) (s : List Char) :
    digitsValue (List.replicate k '0' ++ s) = digitsValue s := by
  induction k with
  | zero => rfl
  | succ k ih =>
    rw [List.replicate_succ, List.cons_append]
    exact ih

/-! ## Characters of numerals -/

/-- A character that stands for itself in a numeral: one of the seven-bit alphabet that is neither
skipped nor trimmed. -/
structure IsInk (c : Char) : Prop where
  plain : plain? c = some c
  not_blank : isBlank c = false
  ne_underscore : c ≠ '_'

/-- The characters that finite numbers are written with. -/
def IsNumeral (c : Char) : Prop :=
  c.isDigit = true ∨ c = '.' ∨ c = '-'

theorem toNat_of_isDigit {c : Char} (h : c.isDigit = true) : 48 ≤ c.toNat ∧ c.toNat ≤ 57 := by
  rw [Char.isDigit, Bool.and_eq_true, decide_eq_true_eq, decide_eq_true_eq] at h
  exact h

theorem isInk_of_isDigit {c : Char} (h : c.isDigit = true) : IsInk c := by
  have hc := toNat_of_isDigit h
  refine ⟨?_, ?_, ?_⟩
  · rw [plain?, if_pos]
    omega
  · simp only [isBlank, Bool.or_eq_false_iff, Bool.and_eq_false_iff, beq_eq_false_iff_ne,
      decide_eq_false_iff_not]
    omega
  · rintro rfl
    exact absurd h (by decide)

theorem IsNumeral.isInk {c : Char} (h : IsNumeral c) : IsInk c := by
  rcases h with h | rfl | rfl
  · exact isInk_of_isDigit h
  · exact ⟨by decide, by decide, by decide⟩
  · exact ⟨by decide, by decide, by decide⟩

/-- Text without blanks is not trimmed. -/
theorem trim_of_not_blank {s : List Char} (h : ∀ c ∈ s, isBlank c = false) : trim s = s := by
  have hdrop : ∀ l : List Char, (∀ c ∈ l, isBlank c = false) → l.dropWhile isBlank = l := by
    intro l hl
    cases l with
    | nil => rfl
    | cons c rest => rw [List.dropWhile_cons_of_neg (by simp [hl c List.mem_cons_self])]
  rw [trim, trimOf, dropEndWhile, hdrop s h, hdrop s.reverse fun c hc => h c (List.mem_reverse.mp hc),
    List.reverse_reverse]

/-- A numeral is read from its characters as they stand. -/
theorem ofText?_of_ink {s : List Char} (h : ∀ c ∈ s, IsInk c) :
    ofText? (String.ofList s) =
      unsigned? (Numeral.takeSign s).1 (Numeral.takeSign s).2 := by
  have hfilter : s.filter (· != '_') = s := by
    rw [List.filter_eq_self]
    exact fun c hc => bne_iff_ne.mpr (h c hc).ne_underscore
  have hplain : s.mapM plain? = some s := by
    clear hfilter
    induction s with
    | nil => rfl
    | cons c rest ih =>
      obtain ⟨hc, hrest⟩ := List.forall_mem_cons.mp h
      simp [List.mapM_cons, hc.plain, ih hrest]
  rw [ofText?, String.toList_ofList, trim_of_not_blank fun c hc => (h c hc).not_blank, hfilter, hplain]
  rfl

/-- A sign is taken off what does not begin with one. -/
theorem takeSign_sign (negative : Bool) {c : Char} (hc : c ≠ '-' ∧ c ≠ '+') (s : List Char) :
    Numeral.takeSign (sign negative ++ c :: s) = (negative, c :: s) := by
  cases negative with
  | true => rfl
  | false =>
    rw [sign, if_neg Bool.false_ne_true, List.nil_append, Numeral.takeSign]
    · rintro _ ⟨⟩
      exact hc.1 rfl
    · rintro _ ⟨⟩
      exact hc.2 rfl

/-- A numeral with its sign is read as what the numeral without it is. -/
theorem ofText?_sign (negative : Bool) {c : Char} {s : List Char} (hc : c ≠ '-' ∧ c ≠ '+')
    (h : ∀ x ∈ c :: s, IsInk x) :
    ofText? (String.ofList (sign negative ++ c :: s)) = unsigned? negative (c :: s) := by
  have hsign : ∀ x ∈ sign negative, IsInk x := by
    cases negative with
    | true => exact List.forall_mem_singleton.mpr (IsNumeral.isInk (Or.inr (Or.inr rfl)))
    | false => exact List.forall_mem_nil _
  rw [ofText?_of_ink (List.forall_mem_append.mpr ⟨hsign, h⟩), takeSign_sign negative hc]

/-- A digit is no sign. -/
theorem ne_sign_of_isDigit {c : Char} (h : c.isDigit = true) : c ≠ '-' ∧ c ≠ '+' := by
  constructor
  · rintro rfl
    exact absurd h (by decide)
  · rintro rfl
    exact absurd h (by decide)

/-! ## Finite numbers -/

theorem toLower_of_isDigit {c : Char} (h : c.isDigit = true) : c.toLower = c := by
  have hc := toNat_of_isDigit h
  refine dif_neg fun hupper => ?_
  have hletter : 65 ≤ c.toNat := hupper.1
  omega

/-- What begins with a digit is a finite number. -/
theorem unsigned?_of_isDigit {c : Char} (h : c.isDigit = true) (negative : Bool) (s : List Char) :
    unsigned? negative (c :: s) = finite? negative (c :: s) := by
  have hne : ∀ letter : Char, letter.isDigit = false → c ≠ letter := by
    rintro letter hletter rfl
    rw [h] at hletter
    cases hletter
  have hi := hne 'i' (by decide)
  have hn := hne 'n' (by decide)
  have hs := hne 's' (by decide)
  simp [unsigned?, toLower_of_isDigit h, hi, hn.symm, hs.symm]

/-- An exponent does not go on the digits in front of it. -/
theorem ends_of_exponent? {tail : List Char} {n : Int} (h : exponent? tail = some n) :
    ∀ c ∈ tail.head?, c.isDigit = false ∧ c ≠ '.' := by
  intro c hc
  cases tail with
  | nil => cases hc
  | cons e rest =>
    cases hc
    have he : c = 'e' ∨ c = 'E' := by
      by_contra hne
      rw [exponent?, if_neg (by simpa using hne)] at h
      cases h
    rcases he with rfl | rfl
    · exact ⟨by decide, by decide⟩
    · exact ⟨by decide, by decide⟩

/-- Digits alone are a coefficient. -/
theorem parts?_of_digits {s tail : List Char} {n : Int} (h : ∀ c ∈ s, c.isDigit = true)
    (hne : s ≠ []) (htail : exponent? tail = some n) :
    parts? (s ++ tail) = some (digitsValue s, n) := by
  have hends := ends_of_exponent? htail
  have hwhole := Numeral.takeWhile_digits h fun c hc => (hends c hc).1
  have hempty : s.isEmpty = false := by simpa using hne
  rw [parts?, hwhole, List.drop_left]
  dsimp only
  -- What follows the digits is no point, so there is no fraction.
  split
  · exact absurd rfl (hends '.' rfl).2
  · simp [htail, hempty]

/-- Digits after a point are places. -/
theorem parts?_of_point {w f tail : List Char} {n : Int} (hw : ∀ c ∈ w, c.isDigit = true)
    (hne : w ≠ []) (hf : ∀ c ∈ f, c.isDigit = true) (htail : exponent? tail = some n) :
    parts? (w ++ '.' :: (f ++ tail)) = some (digitsValue (w ++ f), n - (f.length : Int)) := by
  have hwhole : (w ++ '.' :: (f ++ tail)).takeWhile Char.isDigit = w :=
    Numeral.takeWhile_digits hw (by rintro c ⟨⟩; decide)
  have hplaces := Numeral.takeWhile_digits hf fun c hc => (ends_of_exponent? htail c hc).1
  have hempty : (w ++ f).isEmpty = false := by simp [hne]
  simp [parts?, hwhole, hplaces, htail, hempty]

/-- Digits with a point are digits before it and as many places as there are to be. -/
theorem pointed_eq {ds : List Char} (h : ∀ c ∈ ds, c.isDigit = true) (places : Nat) :
    ∃ w f, pointed ds places = w ++ '.' :: f ∧ (∀ c ∈ w ++ f, c.isDigit = true) ∧ w ≠ [] ∧
      f.length = places ∧ digitsValue (w ++ f) = digitsValue ds := by
  have hfilled : ∀ c ∈ List.replicate (places + 1 - ds.length) '0' ++ ds, c.isDigit = true := by
    intro c hc
    rcases List.mem_append.mp hc with hzero | hds
    · rw [List.eq_of_mem_replicate hzero]
      decide
    · exact h c hds
  have hlength : places + 1 ≤ (List.replicate (places + 1 - ds.length) '0' ++ ds).length := by
    rw [List.length_append, List.length_replicate]
    omega
  refine ⟨_, _, rfl, ?_, ?_, ?_, ?_⟩
  · rw [List.take_append_drop]
    exact hfilled
  · intro hnil
    have hzero := congrArg List.length hnil
    rw [List.length_take, List.length_nil] at hzero
    omega
  · rw [List.length_drop]
    omega
  · rw [List.take_append_drop, digitsValue_zeros]

/-! ## Numbers that are written with all their digits -/

/-- Whether a number can have been read: a finite one is in the range of exponents. -/
def IsRead : Decimal → Prop
  | .finite _ c e => inRange c e = true
  | _ => True

/-- The number that is read from all digits of a number. -/
def respelled : Decimal → Decimal
  | .finite negative c e =>
    if e < 0 then .finite negative c e
    else .finite negative (c * 10 ^ e.natAbs) 0
  | d => d

theorem isRead_of_finite? {negative : Bool} {s : List Char} {d : Decimal}
    (h : finite? negative s = some d) : d.IsRead := by
  obtain ⟨⟨c, e⟩, -, hd⟩ := Option.bind_eq_some_iff.mp h
  dsimp only at hd
  split_ifs at hd with hrange
  · cases hd
    exact hrange

theorem isRead_zero : (ofInt 0).IsRead :=
  show inRange 0 0 = true from by decide

/-- What is read is in range. -/
theorem isRead_of_ofText? {s : String} {d : Decimal} (h : ofText? s = some d) : d.IsRead := by
  obtain ⟨plain, -, hd⟩ := Option.bind_eq_some_iff.mp h
  unfold unsigned? at hd
  simp only at hd
  split_ifs at hd
  · cases hd
    trivial
  · obtain ⟨payload, -, rfl⟩ := Option.map_eq_some_iff.mp hd
    trivial
  · obtain ⟨payload, -, rfl⟩ := Option.map_eq_some_iff.mp hd
    trivial
  · exact isRead_of_finite? hd

theorem inRange_respelled {c : Nat} {e : Int} (he : ¬ e < 0) (h : inRange c e = true) :
    inRange (c * 10 ^ e.natAbs) 0 = true := by
  simp only [inRange, Bool.and_eq_true, decide_eq_true_eq] at h ⊢
  refine ⟨?_, by decide⟩
  by_cases hc : c = 0
  · rw [hc, Nat.zero_mul, if_pos rfl]
    decide
  · have hpos : 0 < c := Nat.pos_of_ne_zero hc
    have hne : c * 10 ^ e.natAbs ≠ 0 := Nat.mul_ne_zero hc (by simp)
    rw [if_neg hc] at h
    rw [if_neg hne, Numeral.digits_mul_pow hpos, List.length_append, List.length_replicate]
    omega

/-- The digits of a finite number without its sign. -/
def unsignedFixed (c : Nat) (e : Int) : List Char :=
  if e < 0 then pointed (Numeral.digits c) e.natAbs
  else if c = 0 then Numeral.digits c
  else Numeral.digits c ++ List.replicate e.natAbs '0'

theorem toFixed_finite (negative : Bool) (c : Nat) (e : Int) :
    (finite negative c e).toFixed = String.ofList (sign negative ++ unsignedFixed c e) := rfl

/-- A number that is no fraction is written as its digits. -/
theorem unsignedFixed_of_not_neg {c : Nat} {e : Int} (he : ¬ e < 0) :
    unsignedFixed c e = Numeral.digits (c * 10 ^ e.natAbs) := by
  rw [unsignedFixed, if_neg he]
  split_ifs with hc
  · rw [hc, Nat.zero_mul]
  · rw [Numeral.digits_mul_pow (Nat.pos_of_ne_zero hc)]

/-- All digits of a finite number are read as the respelled one. -/
theorem finite?_unsignedFixed {c : Nat} {e : Int} (h : inRange c e = true) (negative : Bool) :
    finite? negative (unsignedFixed c e) = some (finite negative c e).respelled := by
  by_cases he : e < 0
  · obtain ⟨w, f, hpointed, hdigits, hw, hlength, hvalue⟩ :=
      pointed_eq (Numeral.isDigit_digits c) e.natAbs
    rw [List.forall_mem_append] at hdigits
    have hplaces : 0 - (f.length : Int) = e := by omega
    have hparts := parts?_of_point hdigits.1 hw hdigits.2 (show exponent? [] = some 0 from rfl)
    rw [List.append_nil, hvalue, digitsValue_digits, hplaces] at hparts
    rw [unsignedFixed, if_pos he, hpointed, finite?, hparts]
    simp [respelled, he, h]
  · have hparts := parts?_of_digits (Numeral.isDigit_digits (c * 10 ^ e.natAbs))
      (Numeral.digits_ne_nil _) (show exponent? [] = some 0 from rfl)
    rw [List.append_nil] at hparts
    rw [unsignedFixed_of_not_neg he, finite?, hparts, digitsValue_digits]
    simp [respelled, he, inRange_respelled he h]

/-- All digits of a finite number begin with a digit. -/
theorem unsignedFixed_cons (c : Nat) (e : Int) :
    ∃ d rest, unsignedFixed c e = d :: rest ∧ d.isDigit = true ∧ ∀ x ∈ rest, IsNumeral x := by
  have hdigits {ds : List Char} (hds : ∀ x ∈ ds, x.isDigit = true) : ∀ x ∈ ds, IsNumeral x :=
    fun x hx => Or.inl (hds x hx)
  by_cases he : e < 0
  · obtain ⟨w, f, hpointed, hall, hw, -, -⟩ :=
      pointed_eq (Numeral.isDigit_digits c) e.natAbs
    rw [List.forall_mem_append] at hall
    obtain ⟨d, rest, rfl⟩ := List.exists_cons_of_ne_nil hw
    refine ⟨d, rest ++ '.' :: f, by rw [unsignedFixed, if_pos he, hpointed]; rfl,
      hall.1 d List.mem_cons_self, ?_⟩
    intro x hx
    rw [List.mem_append, List.mem_cons] at hx
    rcases hx with hx | rfl | hx
    · exact Or.inl (hall.1 x (List.mem_cons_of_mem _ hx))
    · exact Or.inr (Or.inl rfl)
    · exact Or.inl (hall.2 x hx)
  · obtain ⟨d, rest, hcons⟩ := List.exists_cons_of_ne_nil (Numeral.digits_ne_nil (c * 10 ^ e.natAbs))
    have hall : ∀ x ∈ d :: rest, x.isDigit = true := by
      intro x hx
      rw [← hcons] at hx
      exact Numeral.isDigit_digits _ x hx
    exact ⟨d, rest, by rw [unsignedFixed_of_not_neg he, hcons], hall d List.mem_cons_self,
      fun x hx => Or.inl (hall x (List.mem_cons_of_mem _ hx))⟩

/-- Finite numbers are written with characters of numerals. -/
theorem isNumeral_fixed (negative : Bool) (c : Nat) (e : Int) :
    ∀ x ∈ sign negative ++ unsignedFixed c e, IsNumeral x := by
  obtain ⟨first, rest, hcons, hfirst, hrest⟩ := unsignedFixed_cons c e
  rw [hcons, List.forall_mem_append, List.forall_mem_cons]
  refine ⟨?_, Or.inl hfirst, hrest⟩
  cases negative <;> simp [sign, IsNumeral]

/-- **All digits of a number** are read as the respelled number. -/
theorem ofText?_toFixed {d : Decimal} (hread : d.IsRead) (hnan : d.isNan = false) :
    ofText? d.toFixed = some d.respelled := by
  cases d with
  | finite negative c e =>
    obtain ⟨first, rest, hcons, hfirst, hrest⟩ := unsignedFixed_cons c e
    have hink : ∀ x ∈ first :: rest, IsInk x :=
      List.forall_mem_cons.mpr ⟨isInk_of_isDigit hfirst, fun x hx => (hrest x hx).isInk⟩
    rw [toFixed_finite, hcons, ofText?_sign negative (ne_sign_of_isDigit hfirst) hink,
      unsigned?_of_isDigit hfirst, ← hcons, finite?_unsignedFixed hread]
  | infinite negative => cases negative <;> decide +kernel
  | nan => cases hnan

/-- The respelled number is written as the number is. -/
theorem toFixed_respelled (d : Decimal) : d.respelled.toFixed = d.toFixed := by
  cases d with
  | finite negative c e =>
    rw [respelled]
    split_ifs with he
    · rfl
    · have hzero : ¬ (0 : Int) < 0 := by decide
      rw [toFixed_finite, toFixed_finite, unsignedFixed_of_not_neg he, unsignedFixed_of_not_neg hzero,
        Int.natAbs_zero, Nat.pow_zero, Nat.mul_one]
  | infinite negative => rfl
  | nan negative signalling payload => rfl

theorem isNan_respelled (d : Decimal) : d.respelled.isNan = d.isNan := by
  cases d with
  | finite negative c e =>
    rw [respelled]
    split_ifs <;> rfl
  | infinite negative => rfl
  | nan negative signalling payload => rfl

theorem stripZeros_mul_pow {c : Nat} (h : c ≠ 0) (k : Nat) (e : Int) :
    stripZeros (c * 10 ^ k) e = stripZeros c (e + k) := by
  induction k generalizing e with
  | zero => simp
  | succ k ih =>
    have hne : c * 10 ^ (k + 1) ≠ 0 := Nat.mul_ne_zero h (by simp)
    have hmod : c * 10 ^ (k + 1) % 10 = 0 := by
      rw [Nat.pow_succ, ← Nat.mul_assoc, Nat.mul_mod_left]
    have hdiv : c * 10 ^ (k + 1) / 10 = c * 10 ^ k := by
      rw [Nat.pow_succ, ← Nat.mul_assoc, Nat.mul_div_cancel _ (by decide)]
    rw [stripZeros, dif_neg hne, if_pos hmod, hdiv, ih]
    congr 1
    omega

/-- The respelled number has the value of the number. -/
theorem sameValue?_respelled {d : Decimal} (h : d.isNan = false) :
    d.sameValue? d.respelled = some true := by
  refine sameValue?_eq_true_iff.mpr ⟨h, by rw [isNan_respelled, h], ?_⟩
  cases d with
  | finite negative c e =>
    rw [respelled]
    split_ifs with he
    · rfl
    · have hstrip : stripZeros (c * 10 ^ e.natAbs) 0 = stripZeros c e := by
        by_cases hc : c = 0
        · have hzero (e : Int) : stripZeros 0 e = (0, 0) := by rw [stripZeros, dif_pos rfl]
          rw [hc, Nat.zero_mul, hzero, hzero]
        · rw [stripZeros_mul_pow hc]
          congr 1
          omega
      rw [reduce, reduce, hstrip]
  | infinite negative => rfl
  | nan negative signalling payload => rfl

end Decimal

end SchemaPlan
