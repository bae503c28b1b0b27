import RayTracer.Scalar

/-!
# Binary floating point scalars

The scalars the program computes with: binary floating point numbers of 64
bits, with the operations of the processor.

Decimal numerals are rounded to the nearest number. Numerals whose magnitude is
far outside the range of the format are decided by that magnitude alone, so
that reading a short numeral with an enormous exponent takes no time
(`decimalToFloat`, `decimalToFloat32`).
-/

set_option autoImplicit false

namespace RayTracer

/-! ## The total order -/

/-- The position of a number in the total order. Negative numbers come before
positive ones and are ordered by decreasing magnitude; the two zeros are
distinct. -/
def Binary64.orderKey (value : Float) : Int :=
  let bits : Int := value.toBits.toNat
  let signBit : Int := 0x8000000000000000
  if bits < signBit then bits else signBit - bits - 1

/-- The total order on floating point values. The values that are not numbers
are the results of invalid operations; the processor marks these as negative,
so they come before every number. -/
def Binary64.totalCompare (first second : Float) : Ordering :=
  match first.isNaN, second.isNaN with
  | true, true => .eq
  | true, false => .lt
  | false, true => .gt
  | false, false => compare (Binary64.orderKey first) (Binary64.orderKey second)

/-- Floating point numbers are scalars. -/
instance instScalarFloat : Scalar Float where
  decidableLT := fun first second => inferInstanceAs (Decidable (first < second))
  decidableLE := fun first second => inferInstanceAs (Decidable (first ≤ second))
  ofNat := Float.ofNat
  ofScientific := Float.ofScientific
  infinity := 1.0 / 0.0
  abs := Float.abs
  sqrt := Float.sqrt
  exp := Float.exp
  sin := Float.sin
  cos := Float.cos
  tan := Float.tan
  pow := Float.pow
  totalCompare := Binary64.totalCompare

/-! ## Decimal numerals -/

/-- How a decimal numeral `mantissa * 10 ^ exponent` compares with the range of
a format whose finite positive numbers lie between `10 ^ (-reach)` and
`10 ^ reach`. -/
inductive Magnitude where
  /-- Rounds to zero. -/
  | negligible
  /-- Rounds by the rules of the format. -/
  | ordinary
  /-- Exceeds every number of the format. -/
  | excessive

/-- The magnitude of a numeral, from bounds on the power of ten it lies at: the
decimal logarithm of the mantissa is between 0.3 and 0.31 times its binary one,
up to one. -/
def Magnitude.ofDecimal (reach : Nat) (mantissa : Nat) (exponent : Int) : Magnitude :=
  if mantissa = 0 then .negligible
  else
    let leastPower : Int := (mantissa.log2 * 3 / 10 : Nat) + exponent
    let greatestPower : Int := (mantissa.log2 * 31 / 100 + 1 : Nat) + exponent
    if reach < leastPower then .excessive
    else if greatestPower < -reach then .negligible
    else .ordinary

/-- The nearest 64-bit number to `mantissa * 10 ^ exponent`. -/
def decimalToFloat (mantissa : Nat) (exponent : Int) : Float :=
  match Magnitude.ofDecimal 400 mantissa exponent with
  | .negligible => 0.0
  | .excessive => 1.0 / 0.0
  | .ordinary => Float.ofScientific mantissa (exponent < 0) exponent.natAbs

/-- The nearest 32-bit number to `mantissa * 10 ^ exponent`. -/
def decimalToFloat32 (mantissa : Nat) (exponent : Int) : Float32 :=
  match Magnitude.ofDecimal 100 mantissa exponent with
  | .negligible => 0.0
  | .excessive => 1.0 / 0.0
  | .ordinary => Float32.ofScientific mantissa (exponent < 0) exponent.natAbs

/-! ## Conversions -/

/-- Floating point numbers are rounded to 32 bits and widened from them. -/
instance instSingleFloat : Single Float := ⟨Float.toFloat32, Float32.toFloat⟩

/-- Numerals are rounded to the nearest number. -/
instance instOfDecimalFloat : OfDecimal Float where
  ofDecimal negative mantissa exponent :=
    let magnitude := decimalToFloat mantissa exponent
    if negative then -magnitude else magnitude

end RayTracer
