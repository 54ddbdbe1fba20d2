/-!
# Finite doubles

A number with a fraction or an exponent is kept as the double that its numeral denotes. Only
reading and writing are ever done with it, so a double is represented exactly: a sign, a
significand and a binary exponent. All rounding goes through `roundRatio?`, which takes the double
nearest to a ratio of natural numbers and prefers the even significand of two equally near ones.

The representation is canonical: the significand has exactly 53 bits, or fewer and then the
exponent is the least one. Two doubles are the same number with the same sign iff they are equal.
-/

namespace CloudAdmin.Decimal

/-- The number `significand * 2 ^ exponent` with a sign. -/
structure Binary64 where
  negative : Bool
  significand : Nat
  exponent : Int
deriving DecidableEq, Repr

/-- The quotient rounded to the nearest natural number, a half to the even neighbour. -/
def roundDiv (numerator denominator : Nat) : Nat :=
  let quotient := numerator / denominator
  let twice := 2 * (numerator % denominator)
  if twice < denominator then quotient
  else if denominator < twice then quotient + 1
  else quotient + quotient % 2

namespace Binary64

/-- The exponent of the smallest positive double. -/
def leastExponent : Int := -1074

/-- The exponent of the largest doubles. -/
def greatestExponent : Int := 971

/-- The least significand of 53 bits. -/
def leastFull : Nat := 0x10000000000000

/-- The least significand of more than 53 bits. -/
def overfull : Nat := 0x20000000000000

/-- Zero, which has a sign. -/
def zero (negative : Bool) : Binary64 :=
  ⟨negative, 0, leastExponent⟩

def isZero (value : Binary64) : Bool :=
  value.significand == 0

/-- The same magnitude with a given sign. -/
def withSign (negative : Bool) (value : Binary64) : Binary64 :=
  { value with negative }

/-- A ratio shifted by a binary exponent, as a ratio of natural numbers. -/
def shiftRatio (numerator denominator : Nat) (shift : Int) : Nat × Nat :=
  if 0 ≤ shift then (numerator, denominator * Nat.pow 2 shift.toNat)
  else (numerator * Nat.pow 2 (-shift).toNat, denominator)

/-- The positive double nearest to a ratio; none if the ratio is too large for one. -/
def roundRatio? (numerator denominator : Nat) : Option Binary64 :=
  if numerator == 0 then some (zero false)
  else
    let estimate : Int := (numerator.log2 : Int) - (denominator.log2 : Int) - 52
    let scaled := shiftRatio numerator denominator estimate
    let fitted := if scaled.1 / scaled.2 < leastFull then estimate - 1 else estimate
    let exponent := max fitted leastExponent
    let ratio := shiftRatio numerator denominator exponent
    let significand := roundDiv ratio.1 ratio.2
    let carried := significand == overfull
    let final := if carried then exponent + 1 else exponent
    if greatestExponent < final then none
    else some ⟨false, if carried then leastFull else significand, final⟩

/-- A double's magnitude as a ratio of natural numbers. -/
def toRatio (value : Binary64) : Nat × Nat :=
  if 0 ≤ value.exponent then (value.significand * Nat.pow 2 value.exponent.toNat, 1)
  else (value.significand, Nat.pow 2 (-value.exponent).toNat)

/-- The double nearest to the product of two magnitudes. -/
def multiply? (left right : Binary64) : Option Binary64 :=
  let leftRatio := left.toRatio
  let rightRatio := right.toRatio
  roundRatio? (leftRatio.1 * rightRatio.1) (leftRatio.2 * rightRatio.2)

/-- The double nearest to the quotient of two magnitudes. -/
def divide? (left right : Binary64) : Option Binary64 :=
  let leftRatio := left.toRatio
  let rightRatio := right.toRatio
  roundRatio? (leftRatio.1 * rightRatio.2) (leftRatio.2 * rightRatio.1)

/-- The double nearest to a power of ten up to `10 ^ 308`. -/
def powerOfTen (power : Nat) : Binary64 :=
  (roundRatio? (Nat.pow 10 power) 1).getD (zero false)

/-- The largest power of ten that is a double. -/
def greatestPower : Nat := 308

/-- A magnitude divided by a power of ten, in steps of at most the greatest power. Three such
steps bring every 64-bit significand below the least double. -/
def divideByPower (value : Binary64) (power : Nat) : Binary64 :=
  let steps := (power - 1) / greatestPower
  if 3 ≤ steps then zero false
  else
    let reduced := Nat.repeat
      (fun current => (divide? current (powerOfTen greatestPower)).getD (zero false)) steps value
    (divide? reduced (powerOfTen (power - greatestPower * steps))).getD (zero false)

/-- The double that stands for `significand * 10 ^ exponent`: the significand is rounded to a
double first, then multiplied or divided by the double nearest to the power of ten. None if the
product is too large for a double. -/
def ofDecimal? (significand : Nat) (exponent : Int) : Option Binary64 :=
  match roundRatio? significand 1 with
  | none => none
  | some start =>
      if exponent < 0 then some (divideByPower start (-exponent).toNat)
      else if start.isZero then some start
      else if greatestPower < exponent.toNat then none
      else multiply? start (powerOfTen exponent.toNat)

end Binary64

end CloudAdmin.Decimal
