/-!
# Decimal numbers

Exact decimal numbers as they are written: a sign, a coefficient and a power of ten, so that `1.5`
and `1.50` are two numbers of one value.  There are also two infinities and the numbers that are
not a number, quiet or signalling, with a payload.

* `Decimal.reduce` strips the zeros at the end of a coefficient; two finite numbers have the same
  value exactly when they reduce to the same number.
* `Decimal.sameValue?` compares by value and has no answer when a signalling number takes part.
-/
namespace SchemaPlan

/-- An exact decimal number. -/
inductive Decimal where
  | finite (negative : Bool) (coefficient : Nat) (exponent : Int)
  | infinite (negative : Bool)
  | nan (negative : Bool) (signalling : Bool) (payload : Nat)
deriving DecidableEq, Inhabited

namespace Decimal

/-- The integer as a decimal number. -/
def ofInt (n : Int) : Decimal :=
  .finite (n < 0) n.natAbs 0

/-- Moves the zeros at the end of a coefficient into the exponent. -/
def stripZeros (coefficient : Nat) (exponent : Int) : Nat × Int :=
  if h : coefficient = 0 then (0, 0)
  else if coefficient % 10 = 0 then stripZeros (coefficient / 10) (exponent + 1)
  else (coefficient, exponent)
termination_by coefficient
decreasing_by omega

/-- The number of the same value with the shortest coefficient; the one zero is positive. -/
def reduce : Decimal → Decimal
  | .finite negative c e =>
    let (c', e') := stripZeros c e
    .finite (negative && c' != 0) c' e'
  | d => d

/-- Whether the number is a signalling one, which takes part in no comparison. -/
def isSignalling : Decimal → Bool
  | .nan _ signalling _ => signalling
  | _ => false

/-- Whether the number is not a number. -/
def isNan : Decimal → Bool
  | .nan .. => true
  | _ => false

/-- Whether two numbers have the same value.  What is not a number has the value of nothing, and a
signalling one refuses the comparison. -/
def sameValue? (a b : Decimal) : Option Bool :=
  if a.isSignalling || b.isSignalling then none
  else if a.isNan || b.isNan then some false
  else some (a.reduce == b.reduce)

/-- The integer part, the fraction being cut off.  A coefficient with fewer binary digits than
places behind the point is nothing but fraction. -/
def truncate (negative : Bool) (coefficient : Nat) (exponent : Int) : Int :=
  let magnitude :=
    if coefficient = 0 then 0
    else if exponent < 0 then
      if Nat.log2 coefficient < exponent.natAbs then 0
      else coefficient / Nat.pow 10 exponent.natAbs
    else coefficient * Nat.pow 10 exponent.natAbs
  if negative then -(magnitude : Int) else (magnitude : Int)

end Decimal

end SchemaPlan
