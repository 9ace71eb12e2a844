import SchemaPlan.Number.Decimal
import SchemaPlan.Number.Integer

/-!
# Decimal numerals

The reader of decimal numerals and two ways of writing a decimal number.

* `Decimal.ofText?` reads a free form: blanks around, underscores anywhere, digits of any script,
  a point, an exponent, and the names of what is not finite in either case.
* `Decimal.toText` writes the coefficient with a point where the exponent is small, and with an
  exponent otherwise, so that the number can be told from its text.
* `Decimal.toFixed` writes all digits and never an exponent.
-/
namespace SchemaPlan.Decimal

open SchemaPlan.Text

/-- The greatest exponent of a leading digit. -/
def greatestExponent : Int := 999999999999999999

/-- The least exponent of a last digit. -/
def leastExponent : Int := -1999999999999999997

/-- Whether a finite number is in the range of exponents. -/
def inRange (coefficient : Nat) (exponent : Int) : Bool :=
  let leading :=
    if coefficient = 0 then exponent
    else exponent + ((Numeral.digits coefficient).length : Int) - 1
  leading ≤ greatestExponent && leastExponent ≤ exponent

/-- The number that a run of seven-bit digits stands for. -/
def digitsValue (s : List Char) : Nat :=
  Numeral.value (s.filterMap plainDigit?)

/-- The exponent at the end of a numeral; none is zero. -/
def exponent? : List Char → Option Int
  | [] => some 0
  | c :: rest =>
    if c == 'e' || c == 'E' then
      let (negative, ds) := Numeral.takeSign rest
      if !ds.isEmpty && ds.all Char.isDigit then
        some (if negative then -(digitsValue ds : Int) else (digitsValue ds : Int))
      else none
    else none

/-- The coefficient and the exponent of digits with at most one point, and an exponent. -/
def parts? (s : List Char) : Option (Nat × Int) := do
  let whole := s.takeWhile Char.isDigit
  let afterWhole := s.drop whole.length
  let (fraction, rest) :=
    match afterWhole with
    | '.' :: tail =>
      let fraction := tail.takeWhile Char.isDigit
      (fraction, tail.drop fraction.length)
    | tail => ([], tail)
  let shift ← exponent? rest
  if (whole ++ fraction).isEmpty then none
  else some (digitsValue (whole ++ fraction), shift - (fraction.length : Int))

/-- The finite number of a numeral without its sign, if it is in range. -/
def finite? (negative : Bool) (s : List Char) : Option Decimal := do
  let (coefficient, exponent) ← parts? s
  if inRange coefficient exponent then some (.finite negative coefficient exponent) else none

/-- The digits after the name of what is not a number. -/
def payload? (s : List Char) : Option Nat :=
  if s.all Char.isDigit then some (digitsValue s) else none

/-- A numeral without its sign. -/
def unsigned? (negative : Bool) (s : List Char) : Option Decimal :=
  let low := s.map Char.toLower
  if low == "inf".toList || low == "infinity".toList then some (.infinite negative)
  else if "nan".toList.isPrefixOf low then (payload? (s.drop 3)).map (.nan negative false)
  else if "snan".toList.isPrefixOf low then (payload? (s.drop 4)).map (.nan negative true)
  else finite? negative s

/-- A character of a numeral in the seven-bit alphabet. -/
def plain? (c : Char) : Option Char :=
  if c.toNat < 128 then some c else (digitValue? c).map Nat.digitChar

/-- The decimal number that a numeral stands for. -/
def ofText? (s : String) : Option Decimal := do
  let plain ← ((trim s.toList).filter (· != '_')).mapM plain?
  let (negative, body) := Numeral.takeSign plain
  unsigned? negative body

/-- A minus sign for what is negative. -/
def sign (negative : Bool) : List Char :=
  if negative then ['-'] else []

/-- The text of what is not finite. -/
def nonFiniteText (negative : Bool) (name : String) (payload : Nat) : List Char :=
  sign negative ++ name.toList ++ (if payload = 0 then [] else Numeral.digits payload)

/-- Digits with a point before the last `places` ones, and zeros in front as far as needed. -/
def pointed (ds : List Char) (places : Nat) : List Char :=
  let filled := List.replicate (places + 1 - ds.length) '0' ++ ds
  filled.take (filled.length - places) ++ '.' :: filled.drop (filled.length - places)

/-- Digits with a power of ten, the point standing after the first digit. -/
def scientific (ds : List Char) (leading : Int) : List Char :=
  let tail := ds.drop 1
  let shown := ds.take 1 ++ (if tail.isEmpty then [] else '.' :: tail)
  shown ++ 'E' :: (if leading < 0 then '-' else '+') :: Numeral.digits leading.natAbs

/-- Positional notation is kept down to this exponent of the leading digit. -/
def leastPositional : Int := -6

/-- The text that tells coefficient and exponent. -/
def toText : Decimal → String
  | .finite negative c e =>
    let ds := Numeral.digits c
    let leading := e + (ds.length : Int) - 1
    String.ofList <| sign negative ++
      if e ≤ 0 && leastPositional ≤ leading then
        if e = 0 then ds else pointed ds e.natAbs
      else scientific ds leading
  | .infinite negative => String.ofList (nonFiniteText negative "Infinity" 0)
  | .nan negative signalling payload =>
    String.ofList (nonFiniteText negative (if signalling then "sNaN" else "NaN") payload)

/-- All digits of the number, without an exponent. -/
def toFixed : Decimal → String
  | .finite negative c e =>
    let ds := Numeral.digits c
    String.ofList <| sign negative ++
      if e < 0 then pointed ds e.natAbs
      else if c = 0 then ds
      else ds ++ List.replicate e.natAbs '0'
  | .infinite negative => String.ofList (nonFiniteText negative "Infinity" 0)
  | .nan negative signalling payload =>
    String.ofList (nonFiniteText negative (if signalling then "sNaN" else "NaN") payload)

example : toText (.finite false 150 (-2)) = "1.50" := by decide +kernel

example : toText (.finite false 1 5) = "1E+5" := by decide +kernel

example : toFixed (.finite true 1 (-3)) = "-0.001" := by decide +kernel

end SchemaPlan.Decimal
