import CloudAdmin.Decimal.Binary64

/-!
# Shortest decimal digits

A double is written with the fewest digits that read back as the same double. The real numbers
that round to a double form an interval around it, whose ends belong to it iff the significand is
even. Decimal grids are tried from coarse to fine; on each the two grid points next to the value
are tested against the interval, because a grid with any point in the interval has one of those
two in it. Of two hits the nearer one is taken, and the even one of two equally near.
-/

namespace CloudAdmin.Decimal

/-- A positive decimal number `digits * 10 ^ exponent`. -/
structure Digits where
  digits : Nat
  exponent : Int
deriving DecidableEq, Repr

/-- The power of ten as a ratio. -/
def tenRatio (power : Int) : Nat × Nat :=
  if 0 ≤ power then (Nat.pow 10 power.toNat, 1) else (1, Nat.pow 10 (-power).toNat)

/-- The grid point next to a double on the grid `10 ^ power` that reads back as it, if any. -/
def Binary64.gridPoint? (value : Binary64) (power : Int) : Option Nat :=
  let quarter : Binary64 := ⟨false, 1, value.exponent - 2⟩
  let unit := quarter.toRatio
  let grid := tenRatio power
  let valueScale := unit.1 * grid.2
  let gridScale := grid.1 * unit.2
  let middle := 4 * value.significand * valueScale
  let isPowerOfTwo := value.significand == leastFull && leastExponent < value.exponent
  let low := (4 * value.significand - (if isPowerOfTwo then 1 else 2)) * valueScale
  let high := (4 * value.significand + 2) * valueScale
  let inclusive := value.significand % 2 == 0
  let inside := fun point =>
    let position := point * gridScale
    if inclusive then low ≤ position && position ≤ high else low < position && position < high
  let below := middle / gridScale
  let above := below + 1
  match inside below, inside above with
  | false, false => none
  | true, false => some below
  | false, true => some above
  | true, true =>
      let toBelow := middle - below * gridScale
      let toAbove := above * gridScale - middle
      if toBelow < toAbove then some below
      else if toAbove < toBelow then some above
      else some (if below % 2 == 0 then below else above)

/-- The fewest digits that read back as a double other than zero. -/
def Binary64.shortest (value : Binary64) : Digits :=
  let magnitude := (value.significand.log2 : Int) + value.exponent + 1
  let coarsest := Int.fdiv (magnitude * 30103) 100000 + 1
  let found := (List.range 22).findSome? fun (step : Nat) =>
    let power := coarsest - (step : Int)
    (value.gridPoint? power).map fun point => (⟨point, power⟩ : Digits)
  found.getD ⟨value.significand, 0⟩

/-- How a decimal number is laid out: it is written positionally iff the exponent of its first
digit is in a range, and otherwise with one digit before the point and a signed exponent. -/
structure Layout where
  leastPositional : Int
  greatestPositional : Int
deriving DecidableEq, Repr

/-- The digits without the zeros at their end. -/
def significantDigits (digits : Nat) : List Char :=
  let written := (Nat.toDigits 10 digits).reverse.dropWhile (· == '0')
  written.reverse

/-- Write a positive decimal number. -/
def Layout.render (layout : Layout) (number : Digits) : List Char :=
  let digits := significantDigits number.digits
  let leading : Int := ((Nat.toDigits 10 number.digits).length : Int) - 1 + number.exponent
  if layout.leastPositional ≤ leading && leading ≤ layout.greatestPositional then
    if leading < 0 then
      '0' :: '.' :: (List.replicate ((-leading).toNat - 1) '0' ++ digits)
    else
      let whole := leading.toNat + 1
      if digits.length ≤ whole then
        digits ++ List.replicate (whole - digits.length) '0' ++ ['.', '0']
      else digits.take whole ++ '.' :: digits.drop whole
  else
    let fraction := match digits with
      | [] => []
      | [single] => [single]
      | first :: rest => first :: '.' :: rest
    let sign := if leading < 0 then '-' else '+'
    fraction ++ 'e' :: sign :: Nat.toDigits 10 leading.natAbs

/-- Write a double; zero is written as the positional number with one digit. -/
def Layout.renderDouble (layout : Layout) (value : Binary64) : List Char :=
  let magnitude := if value.isZero then ['0', '.', '0'] else layout.render value.shortest
  if value.negative then '-' :: magnitude else magnitude

end CloudAdmin.Decimal
