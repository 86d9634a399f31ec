/-!
# Shortest decimals

The decimal with the fewest digits among those that are rounded to a given binary fraction, as
double-precision numbers are written.

## Main definitions

* `BinaryFraction`: a positive number `significand * 2 ^ exponent` and the gaps around it.
* `BinaryFraction.ofFloat`: the absolute value of a double-precision number.
* `BinaryFraction.onGrid?`: the multiple of a power of ten that is rounded to the number.
* `BinaryFraction.shortest`: digits and exponent of the shortest decimal.
-/

namespace RowShape.Decimal

/-- A positive number of limited precision: `significand * 2 ^ exponent`. -/
structure BinaryFraction where
  significand : Nat
  exponent : Int
  /-- The next number below is half as far away as the next one above. -/
  narrowBelow : Bool
  deriving DecidableEq, Inhabited

namespace BinaryFraction

/-- The absolute value of a finite double-precision number. -/
def ofFloat (x : Float) : BinaryFraction :=
  let bits := x.toBits.toNat
  let leading := Nat.pow 2 52
  let exponent := bits / leading % Nat.pow 2 11
  let fraction := bits % leading
  if exponent = 0 then ⟨fraction, -1074, false⟩
  else ⟨leading + fraction, Int.ofNat exponent - 1075, fraction == 0 && 1 < exponent⟩

/-- The quarter units in which the number, and the ends of the interval that is rounded to it, are
whole: `2 ^ (exponent - 2)`, divided by `10 ^ k` and written as a fraction. -/
def unitPerGrid (x : BinaryFraction) (k : Int) : Nat × Nat :=
  let e := x.exponent - 2
  (Nat.pow 2 e.toNat * Nat.pow 10 (-k).toNat, Nat.pow 2 (-e).toNat * Nat.pow 10 k.toNat)

/-- The multiple of `10 ^ k` that is rounded to the number: of two the nearer one, and at equal
distance the even one. -/
def onGrid? (x : BinaryFraction) (k : Int) : Option Nat :=
  let (num, den) := x.unitPerGrid k
  let value := 4 * x.significand * num
  let low := (4 * x.significand - (if x.narrowBelow then 1 else 2)) * num
  let high := (4 * x.significand + 2) * num
  let closed := x.significand % 2 == 0
  let inside (d : Nat) : Bool :=
    if closed then low ≤ d * den && d * den ≤ high else low < d * den && d * den < high
  let below := value / den
  let above := below + 1
  match inside below, inside above with
  | false, false => none
  | true, false => some below
  | false, true => some above
  | true, true =>
    let down := value - below * den
    let up := above * den - value
    if down < up then some below
    else if up < down then some above
    else if below % 2 = 0 then some below else some above

/-- The shortest decimal `(d, k)`, that is `d * 10 ^ k`: the one on the coarsest grid.  No double is
so large or small that the grids from `10 ^ 309` to `10 ^ (-343)` miss it. -/
def shortest (x : BinaryFraction) : Nat × Int :=
  ((List.range 653).findSome? fun i =>
    let k := 309 - Int.ofNat i
    (x.onGrid? k).map fun d => (d, k)).getD (0, 0)

end BinaryFraction

end RowShape.Decimal
