import SchemaPlan.Text.Base64

/-!
# Base 64 is read back

Bytes are cut into values of six bits, and each value is written as one character.  Reading gives
the values back, and from them the bytes.

* `ofBase64?_toBase64` says that bytes are read as they were written.
-/
namespace SchemaPlan.Text

/-- The values of six bits that bytes are written with; bits that are too many are left in front. -/
def sextets : List UInt8 → List Nat
  | [] => []
  | [a] => [a.toNat / 4, a.toNat * 16]
  | [a, b] => [a.toNat / 4, a.toNat * 16 + b.toNat / 16, b.toNat * 4]
  | a :: b :: c :: rest =>
    a.toNat / 4 :: (a.toNat * 16 + b.toNat / 16) :: (b.toNat * 4 + c.toNat / 64) :: c.toNat ::
      sextets rest

/-- The number of padding characters after bytes. -/
def pads : List UInt8 → Nat
  | [] => 0
  | [_] => 2
  | [_, _] => 1
  | _ :: _ :: _ :: rest => pads rest

theorem toBase64_eq (bytes : List UInt8) :
    toBase64 bytes = (sextets bytes).map base64Char ++ List.replicate (pads bytes) '=' := by
  induction bytes using toBase64.induct with
  | case1 => rfl
  | case2 a => rfl
  | case3 a b => rfl
  | case4 a b c rest ih => simp [toBase64, sextets, pads, ih]

/-- A value is read from its character. -/
theorem base64Value?_base64Char (n : Nat) : base64Value? (base64Char n) = some (n % 64) := by
  have h : ∀ k < 64, base64Value? (base64Char k) = some k := by decide +kernel
  have hn : base64Char n = base64Char (n % 64) := by
    rw [base64Char, base64Char, Nat.mod_mod]
  rw [hn]
  exact h _ (Nat.mod_lt _ (by decide))

theorem takeWhile_base64 (values : List Nat) (count : Nat) :
    (values.map base64Char ++ List.replicate count '=').takeWhile
      (fun c => (base64Value? c).isSome) = values.map base64Char := by
  rw [List.takeWhile_append_of_pos]
  · cases count with
    | zero => simp
    | succ count =>
      rw [List.replicate_succ, List.takeWhile_cons_of_neg (by decide), List.append_nil]
  · intro c hc
    obtain ⟨n, -, rfl⟩ := List.mem_map.mp hc
    rw [base64Value?_base64Char, Option.isSome_some]

/-- The padding is the one that the number of characters asks for. -/
theorem padded_sextets (bytes : List UInt8) :
    padded (sextets bytes).length (pads bytes) = true := by
  induction bytes using sextets.induct with
  | case1 => rfl
  | case2 a => rfl
  | case3 a b => rfl
  | case4 a b c rest ih =>
    have hmod : ((sextets rest).length + 1 + 1 + 1 + 1) % 4 = (sextets rest).length % 4 := by omega
    rw [sextets, pads]
    simp only [List.length_cons, padded, hmod] at ih ⊢
    split at ih <;> simp_all

theorem ofNat_eq_of_mod {n : Nat} {x : UInt8} (h : n % 256 = x.toNat) : UInt8.ofNat n = x := by
  apply UInt8.toNat_inj.mp
  rw [UInt8.toNat_ofNat']
  exact h

/-- The first byte of a group: six bits and two. -/
theorem first_of_sextets (a : UInt8) (next : Nat) (h : next < 16) :
    UInt8.ofNat (a.toNat / 4 % 64 * 4 + (a.toNat * 16 + next) % 64 / 16) = a := by
  have ha := a.toNat_lt
  apply ofNat_eq_of_mod
  omega

/-- The second byte: four bits and four. -/
theorem second_of_sextets (a b : UInt8) (next : Nat) (h : next < 4) :
    UInt8.ofNat ((a.toNat * 16 + b.toNat / 16) % 64 * 16 + (b.toNat * 4 + next) % 64 / 4) = b := by
  have hb := b.toNat_lt
  apply ofNat_eq_of_mod
  omega

/-- The third byte: two bits and six. -/
theorem third_of_sextets (b c : UInt8) :
    UInt8.ofNat ((b.toNat * 4 + c.toNat / 64) % 64 * 64 + c.toNat % 64) = c := by
  have hc := c.toNat_lt
  apply ofNat_eq_of_mod
  omega

/-- The bytes are made of the lower six bits of the values. -/
theorem bytesOfSextets_sextets (bytes : List UInt8) :
    bytesOfSextets ((sextets bytes).map (· % 64)) = bytes := by
  induction bytes using sextets.induct with
  | case1 => rfl
  | case2 a =>
    have ha := first_of_sextets a 0 (by decide)
    simpa [sextets, bytesOfSextets] using ha
  | case3 a b =>
    have hb := b.toNat_lt
    have hfirst := first_of_sextets a (b.toNat / 16) (by omega)
    have hsecond := second_of_sextets a b 0 (by decide)
    simp only [sextets, List.map_cons, List.map_nil, bytesOfSextets, hfirst]
    simpa using hsecond
  | case4 a b c rest ih =>
    have hb := b.toNat_lt
    have hc := c.toNat_lt
    have hfirst := first_of_sextets a (b.toNat / 16) (by omega)
    have hsecond := second_of_sextets a b (c.toNat / 64) (by omega)
    simp only [sextets, List.map_cons, bytesOfSextets, hfirst, hsecond, third_of_sextets, ih]

/-- Bytes in base 64 are read as they were written. -/
theorem ofBase64?_toBase64 (bytes : List UInt8) : ofBase64? (toBase64 bytes) = some bytes := by
  have hvalues : ((sextets bytes).map base64Char).filterMap base64Value? =
      (sextets bytes).map (· % 64) := by
    rw [List.filterMap_map, ← List.filterMap_eq_map]
    exact congrArg (List.filterMap · _) (funext base64Value?_base64Char)
  rw [ofBase64?, toBase64_eq, takeWhile_base64, List.drop_left, List.length_map, hvalues,
    bytesOfSextets_sextets]
  simp [padded_sextets]

end SchemaPlan.Text
