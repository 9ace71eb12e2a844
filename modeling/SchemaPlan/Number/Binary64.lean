import SchemaPlan.Number.Decimal
import SchemaPlan.Number.Integer

/-!
# Double precision numbers

A double as a sign, an integral significand and a power of two, with its value as an exact decimal
number, its integer part, and its shortest text.

* `Binary64.shortest` finds the decimal number with the fewest digits among those that round to a
  given double, and of these the nearest to it.
* `Binary64.layout` says how such digits are written out.
-/
namespace SchemaPlan

/-- A double; a finite one has the value `significand * 2 ^ exponent`. -/
inductive Binary64 where
  | finite (negative : Bool) (significand : Nat) (exponent : Int)
  | infinite (negative : Bool)
  | nan
deriving DecidableEq, Inhabited

namespace Binary64

/-- The least significand of a normal number. -/
def normalFloor : Nat := 4503599627370496

/-- The exponent of the numbers next to zero. -/
def leastExponent : Int := -1074

/-- The exact value as a decimal number. -/
def toDecimal : Binary64 → Decimal
  | .finite negative m e =>
    if e < 0 then .finite negative (m * Nat.pow 5 e.natAbs) e
    else .finite negative (m * Nat.pow 2 e.natAbs) 0
  | .infinite negative => .infinite negative
  | .nan => .nan false false 0

/-- The integer part of a finite number, the fraction being cut off. -/
def truncate (negative : Bool) (m : Nat) (e : Int) : Int :=
  let magnitude := if e < 0 then m / Nat.pow 2 e.natAbs else m * Nat.pow 2 e.natAbs
  if negative then -(magnitude : Int) else (magnitude : Int)

/-- A positive fraction. -/
structure Ratio where
  num : Nat
  den : Nat

/-- `m * 2 ^ e` as a fraction. -/
def Ratio.ofBinary (m : Nat) (e : Int) : Ratio :=
  if e < 0 then ⟨m, Nat.pow 2 e.natAbs⟩ else ⟨m * Nat.pow 2 e.natAbs, 1⟩

/-- The fraction divided by a power of ten. -/
def Ratio.scale (r : Ratio) (e : Int) : Ratio :=
  if e < 0 then ⟨r.num * Nat.pow 10 e.natAbs, r.den⟩ else ⟨r.num, r.den * Nat.pow 10 e.natAbs⟩

/-! ## Shortest digits -/

/-- The real numbers that round to one double. -/
structure Interval where
  low : Ratio
  high : Ratio
  closed : Bool

/-- The interval of the double `m * 2 ^ e`: half way to its neighbours, the ends belonging to it
when its significand is even. -/
def interval (m : Nat) (e : Int) : Interval :=
  let low :=
    if m = normalFloor ∧ leastExponent < e then Ratio.ofBinary (4 * m - 1) (e - 2)
    else Ratio.ofBinary (2 * m - 1) (e - 1)
  ⟨low, Ratio.ofBinary (2 * m + 1) (e - 1), m % 2 == 0⟩

/-- Whether the number `n * 10 ^ e` lies in the interval. -/
def Interval.holds (i : Interval) (n : Nat) (e : Int) : Bool :=
  let low := i.low.scale e
  let high := i.high.scale e
  if i.closed then low.num ≤ n * low.den && n * high.den ≤ high.num
  else low.num < n * low.den && n * high.den < high.num

/-- The power of ten just above the fraction. -/
def Ratio.magnitude (r : Ratio) : Int :=
  let guess := ((Numeral.digits r.num).length : Int) - ((Numeral.digits r.den).length : Int)
  let scaled := r.scale guess
  if scaled.den ≤ scaled.num then guess + 1 else guess

/-- The neighbour of the fraction on the grid of multiples of `10 ^ e` that lies in the interval;
of two the nearer one, and half way between them the even one. -/
def onGrid? (value : Ratio) (i : Interval) (e : Int) : Option Nat :=
  let scaled := value.scale e
  let below := scaled.num / scaled.den
  let rest := 2 * (scaled.num % scaled.den)
  match i.holds below e, i.holds (below + 1) e with
  | true, true =>
    some (if rest < scaled.den || (rest == scaled.den && below % 2 == 0) then below else below + 1)
  | true, false => some below
  | false, true => some (below + 1)
  | false, false => none

/-- Tries grids with one more digit each. -/
def shortestFrom (value : Ratio) (i : Interval) (magnitude : Int) :
    Nat → Nat → Nat × Int
  | 0, count => (((value.scale (magnitude - count)).num / (value.scale (magnitude - count)).den),
      magnitude - count)
  | tries + 1, count =>
    match onGrid? value i (magnitude - count) with
    | some n => (n, magnitude - count)
    | none => shortestFrom value i magnitude tries (count + 1)

/-- The number `n * 10 ^ k` with the fewest digits that rounds to the double `m * 2 ^ e`. -/
def shortest (m : Nat) (e : Int) : Nat × Int :=
  let value := Ratio.ofBinary m e
  let (n, k) := shortestFrom value (interval m e) value.magnitude 17 1
  Decimal.stripZeros n k

/-! ## Text -/

/-- How the digits of a number are laid out. -/
structure Layout where
  /-- The least exponent of the leading digit with positional notation. -/
  positionalFrom : Int
  /-- The least exponent of the leading digit that is too great for positional notation. -/
  positionalBelow : Int
  /-- The least number of digits of an exponent. -/
  exponentDigits : Nat
  /-- Whether a point and a zero follow a digit that stands alone before an exponent. -/
  pointsAlways : Bool
  /-- The text of what is not a number. -/
  nanText : String
  /-- The text of infinity. -/
  infinityText : String

/-- Doubles are positional from `0.0001` up to `10 ^ 16`, and then have exponents of at least two
digits. -/
def layout : Layout := ⟨-4, 16, 2, false, "nan", "inf"⟩

/-- Digits standing for `digits * 10 ^ k`, with a point. -/
def positional (ds : List Char) (k : Int) : List Char :=
  if 0 ≤ k then ds ++ List.replicate k.natAbs '0' ++ ['.', '0']
  else
    let filled := List.replicate (k.natAbs + 1 - ds.length) '0' ++ ds
    filled.take (filled.length - k.natAbs) ++ '.' :: filled.drop (filled.length - k.natAbs)

/-- Digits with an exponent, the point standing after the first digit. -/
def scientific (l : Layout) (ds : List Char) (leading : Int) : List Char :=
  let tail := ds.drop 1
  let exponent := Numeral.digits leading.natAbs
  ds.take 1 ++
    (if tail.isEmpty then if l.pointsAlways then ['.', '0'] else [] else '.' :: tail) ++
    'e' :: (if leading < 0 then '-' else '+') ::
    (List.replicate (l.exponentDigits - exponent.length) '0' ++ exponent)

/-- The shortest text that reads back as the double, in a layout. -/
def textIn (l : Layout) : Binary64 → String
  | .nan => l.nanText
  | .infinite negative => (if negative then "-" else "") ++ l.infinityText
  | .finite negative m e =>
    let (n, k) := shortest m e
    let ds := Numeral.digits n
    let leading := k + (ds.length : Int) - 1
    String.ofList <| (if negative then ['-'] else []) ++
      if m = 0 then ['0', '.', '0']
      else if l.positionalFrom ≤ leading && leading < l.positionalBelow then positional ds k
      else scientific l ds leading

/-- The shortest text that reads back as the double. -/
def toText (x : Binary64) : String :=
  x.textIn layout

end Binary64

end SchemaPlan
