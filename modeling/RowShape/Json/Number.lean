import RowShape.Decimal.Shortest

/-!
# JSON numbers

Whole numbers of 64 bits, and double-precision numbers for everything else.

## Main definitions

* `Number`: a whole number or a double-precision one.
* `Number.render`: the written form.
* `scaled`: the double-precision number of a significand and a power of ten.
-/

namespace RowShape.Json

/-- A number. -/
inductive Number where
  /-- A whole number. -/
  | integer (n : Int)
  /-- A number with a fraction or an exponent, or one that is too large to be whole. -/
  | double (x : Float)
  deriving Inhabited

/-! ### Writing -/

/-- Where positional notation ends, as bounds on the place of the decimal point relative to the
first digit. -/
structure NotationBounds where
  least : Int
  greatest : Int

/-- The bounds of positional notation: `0.00001` and `1000000000000000.0` are positional,
`1e-6` and `1e+16` are not. -/
def positionalBounds : NotationBounds := ⟨-4, 16⟩

/-- A decimal `digits * 10 ^ k` in its notation.  A positional number has a point and a digit on
either side of it; an exponent always has a sign. -/
def renderDecimal (digits : Nat) (k : Int) : String :=
  let ds := Nat.toDigits 10 digits
  let point := (ds.length : Int) + k
  let zeros (n : Int) := List.replicate n.toNat '0'
  if positionalBounds.least ≤ point ∧ point ≤ positionalBounds.greatest then
    if 0 ≤ k then String.ofList (ds ++ zeros k) ++ ".0"
    else if 0 < point then
      String.ofList (ds.take point.toNat) ++ "." ++ String.ofList (ds.drop point.toNat)
    else "0." ++ String.ofList (zeros (-point) ++ ds)
  else
    let mantissa := match ds with
      | [] => ""
      | [d] => d.toString
      | d :: rest => d.toString ++ "." ++ String.ofList rest
    let exponent := point - 1
    mantissa ++ "e" ++ (if exponent < 0 then "-" else "+") ++ toString exponent.natAbs

/-- A finite double-precision number: its shortest decimal, with the sign of zero. -/
def renderDouble (x : Float) : String :=
  let sign := if Nat.pow 2 63 ≤ x.toBits.toNat then "-" else ""
  let fraction := Decimal.BinaryFraction.ofFloat x
  if fraction.significand = 0 then sign ++ "0.0"
  else
    let (digits, k) := fraction.shortest
    sign ++ renderDecimal digits k

namespace Number

/-- The written form. -/
def render : Number → String
  | integer n => toString n
  | double x => renderDouble x

end Number

/-! ### Scaling -/

/-- The largest power of ten in one step of `scaled`. -/
def largestPower : Nat := 308

/-- A power of ten as a double-precision number. -/
def powerOfTen (n : Nat) : Float := Float.ofScientific 1 false n

/-- Divides by a power of ten; one that is out of range is divided by in steps. -/
def scaleDown : Nat → Float → Float
  | n, x =>
    if n ≤ largestPower then x / powerOfTen n
    else if x == 0 then x
    else scaleDown (n - largestPower) (x / powerOfTen largestPower)
  termination_by n => n
  decreasing_by simp_all [largestPower]; omega

/-- The number `significand * 10 ^ exponent`, rounded once for the significand and once for each
step; nothing if it is too large. -/
def scaled (significand : Nat) (exponent : Int) : Option Float :=
  let x := Float.ofNat significand
  if exponent < 0 then some (scaleDown exponent.natAbs x)
  else if exponent.toNat ≤ largestPower then
    let y := x * powerOfTen exponent.toNat
    if y.isInf then none else some y
  else if x == 0 then some x else none

end RowShape.Json
