/-!
# Base 64

Bytes written with the standard alphabet and padding, and a reader that is strict: no blanks, no
foreign characters, nothing after the padding.  A last group of two or three characters is filled
up with exactly the padding it needs; whole groups may be followed by padding.  The bits of the
last character that belong to no byte are ignored.
-/
namespace SchemaPlan.Text

/-- The 64 characters of the alphabet, in the order of their values. -/
def base64Alphabet : List Char :=
  "ABCDEFGHIJKLMNOPQRSTUVWXYZabcdefghijklmnopqrstuvwxyz0123456789+/".toList

/-- The character of a value below 64. -/
def base64Char (n : Nat) : Char :=
  base64Alphabet.getD (n % 64) 'A'

/-- The value of a character of the alphabet. -/
def base64Value? (c : Char) : Option Nat :=
  base64Alphabet.idxOf? c

/-- Bytes in base 64. -/
def toBase64 : List UInt8 → List Char
  | [] => []
  | [a] => [base64Char (a.toNat / 4), base64Char (a.toNat * 16), '=', '=']
  | [a, b] =>
    [base64Char (a.toNat / 4), base64Char (a.toNat * 16 + b.toNat / 16), base64Char (b.toNat * 4),
      '=']
  | a :: b :: c :: rest =>
    base64Char (a.toNat / 4) :: base64Char (a.toNat * 16 + b.toNat / 16) ::
      base64Char (b.toNat * 4 + c.toNat / 64) :: base64Char c.toNat :: toBase64 rest

/-- The bytes of a run of six-bit values; a single value at the end holds no whole byte. -/
def bytesOfSextets : List Nat → List UInt8
  | a :: b :: c :: d :: rest =>
    UInt8.ofNat (a * 4 + b / 16) :: UInt8.ofNat (b * 16 + c / 4) :: UInt8.ofNat (c * 64 + d) ::
      bytesOfSextets rest
  | [a, b, c] => [UInt8.ofNat (a * 4 + b / 16), UInt8.ofNat (b * 16 + c / 4)]
  | [a, b] => [UInt8.ofNat (a * 4 + b / 16)]
  | _ => []

/-- Whether `pads` padding characters may follow `count` characters of the alphabet. -/
def padded (count pads : Nat) : Bool :=
  match count % 4 with
  | 0 => count != 0 || pads == 0
  | 2 => pads == 2
  | 3 => pads == 1
  | _ => false

/-- The bytes that a text in base 64 stands for. -/
def ofBase64? (s : List Char) : Option (List UInt8) :=
  let digits := s.takeWhile fun c => (base64Value? c).isSome
  let rest := s.drop digits.length
  if rest.all (· == '=') && padded digits.length rest.length then
    some (bytesOfSextets (digits.filterMap base64Value?))
  else none

end SchemaPlan.Text
