/-!
# Hexadecimal digits

Bytes as pairs of lower-case hexadecimal digits, and the reader of such pairs.  Main statement:
`unhex?_hexBytes`, reading back gives the bytes.
-/
namespace SchemaPlan.Text

/-- The lower-case digit of a number below sixteen. -/
def hexDigit (n : Nat) : Char :=
  Nat.digitChar (n % 16)

/-- A byte as two digits. -/
def hexByte (b : UInt8) : List Char :=
  [hexDigit (b.toNat / 16), hexDigit b.toNat]

/-- Bytes as pairs of digits. -/
def hexBytes (bytes : List UInt8) : List Char :=
  bytes.flatMap hexByte

/-- The last `width` hexadecimal digits of a number. -/
def hexFixed : Nat → Nat → List Char
  | 0, _ => []
  | width + 1, n => hexFixed width (n / 16) ++ [hexDigit n]

/-- The value of a lower-case hexadecimal digit. -/
def hexValue? (c : Char) : Option Nat :=
  if '0' ≤ c ∧ c ≤ '9' then some (c.toNat - 48)
  else if 'a' ≤ c ∧ c ≤ 'f' then some (c.toNat - 87)
  else none

/-- The bytes that pairs of digits stand for. -/
def unhex? : List Char → Option (List UInt8)
  | [] => some []
  | [_] => none
  | high :: low :: rest => do
    let h ← hexValue? high
    let l ← hexValue? low
    let bytes ← unhex? rest
    return UInt8.ofNat (16 * h + l) :: bytes

theorem hexValue?_hexDigit (n : Nat) : hexValue? (hexDigit n) = some (n % 16) := by
  have h : ∀ k < 16, hexValue? (Nat.digitChar k) = some k := by decide
  exact h _ (Nat.mod_lt _ (by decide))

theorem unhex?_hexBytes (bytes : List UInt8) : unhex? (hexBytes bytes) = some bytes := by
  induction bytes with
  | nil => rfl
  | cons b rest ih =>
    have hb : b.toNat < 256 := b.toNat_lt
    have hd : b.toNat / 16 % 16 = b.toNat / 16 := Nat.mod_eq_of_lt (by omega)
    have hs : 16 * (b.toNat / 16) + b.toNat % 16 = b.toNat := by omega
    have hr : unhex? (rest.flatMap hexByte) = some rest := ih
    simp only [hexBytes, List.flatMap_cons, hexByte, List.cons_append, List.nil_append, unhex?,
      hexValue?_hexDigit, hd, hr, Option.bind_eq_bind, Option.bind_some, hs, UInt8.ofNat_toNat,
      Option.pure_def]

end SchemaPlan.Text
