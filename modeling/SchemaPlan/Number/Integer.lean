import SchemaPlan.Text.Lines

/-!
# Integer numerals

The digits of a number, the value of digits, and the reader of integer numerals in a free form:
blanks around, one sign, digits of any script, single underscores between digits.

Every script that writes numbers in base ten has its ten digits in a row; `Text.digitZeros` lists
the code points of the zeros, and `Text.digitValue?` gives a digit its value.
-/
namespace SchemaPlan

/-! ## Digits of all scripts -/

namespace Text

/-- The code points of the digits zero, in increasing order. -/
def digitZeros : List Nat := [
  0x30, 0x660, 0x6f0, 0x7c0, 0x966, 0x9e6, 0xa66, 0xae6, 0xb66, 0xbe6, 0xc66, 0xce6, 0xd66, 0xde6,
  0xe50, 0xed0, 0xf20, 0x1040, 0x1090, 0x17e0, 0x1810, 0x1946, 0x19d0, 0x1a80, 0x1a90, 0x1b50,
  0x1bb0, 0x1c40, 0x1c50, 0xa620, 0xa8d0, 0xa900, 0xa9d0, 0xa9f0, 0xaa50, 0xabf0, 0xff10, 0x104a0,
  0x10d30, 0x11066, 0x110f0, 0x11136, 0x111d0, 0x112f0, 0x11450, 0x114d0, 0x11650, 0x116c0,
  0x11730, 0x118e0, 0x11950, 0x11c50, 0x11d50, 0x11da0, 0x16a60, 0x16ac0, 0x16b50, 0x1d7ce,
  0x1d7d8, 0x1d7e2, 0x1d7ec, 0x1d7f6, 0x1e140, 0x1e2f0, 0x1e950, 0x1fbf0]

/-- The value of a decimal digit of any script. -/
def digitValue? (c : Char) : Option Nat :=
  (digitZeros.find? fun first => first ≤ c.toNat && c.toNat < first + 10).map (c.toNat - ·)

/-- Whether a character is a decimal digit of some script. -/
def isDecimalDigit (c : Char) : Bool :=
  (digitValue? c).isSome

/-- The value of a digit of the seven-bit alphabet. -/
def plainDigit? (c : Char) : Option Nat :=
  if c.isDigit then some (c.toNat - 48) else none

example : digitValue? '7' = some 7 := by decide

example : digitZeros.length = 66 := by decide

end Text

/-! ## Numerals -/

namespace Numeral

open SchemaPlan.Text

/-- The decimal digits of a number. -/
def digits (n : Nat) : List Char :=
  Nat.toDigits 10 n

/-- The digits of a number as a text. -/
def ofNat (n : Nat) : String :=
  String.ofList (digits n)

/-- The digits of an integer, with a minus sign if it is negative. -/
def ofInt (n : Int) : String :=
  String.ofList (if n < 0 then '-' :: digits n.natAbs else digits n.natAbs)

/-- The value of a run of digit values, the first being the highest. -/
def value (ds : List Nat) : Nat :=
  ds.foldl (fun n d => 10 * n + d) 0

/-- The longest numeral that is read or written. -/
def digitLimit : Nat := 4300

/-- The least number that is too long to be written. -/
def unwritten : Nat := Nat.pow 10 digitLimit

/-- Whether an integer is short enough to be written. -/
def isWritable (n : Int) : Bool :=
  n.natAbs < unwritten

/-- The least integer that has too many digits has too many. -/
theorem isWritable_unwritten : isWritable unwritten = false := by
  rw [isWritable, Int.natAbs_natCast]
  exact decide_eq_false (Nat.lt_irrefl unwritten)

/-- The values of digits that single underscores may separate. -/
def separatedDigits? : List Char → Option (List Nat)
  | [] => none
  | [c] => (digitValue? c).map ([·])
  | c :: '_' :: rest => do return (← digitValue? c) :: (← separatedDigits? rest)
  | c :: rest => do return (← digitValue? c) :: (← separatedDigits? rest)

/-- A sign at the front: whether it is a minus sign, and what follows. -/
def takeSign : List Char → Bool × List Char
  | '-' :: rest => (true, rest)
  | '+' :: rest => (false, rest)
  | s => (false, s)

/-- The blanks that may stand around a numeral: the seven-bit ones, and those of other scripts. -/
def isMargin (c : Char) : Bool :=
  if c.toNat < 128 then isPlainBlank c else isBlank c

/-- The integer that a numeral stands for. -/
def toInt? (s : List Char) : Option Int :=
  let (negative, body) := takeSign (trimOf isMargin s)
  match separatedDigits? body with
  | none => none
  | some ds =>
    if ds.length ≤ digitLimit then
      some (if negative then -(value ds : Int) else (value ds : Int))
    else none

end Numeral

end SchemaPlan
