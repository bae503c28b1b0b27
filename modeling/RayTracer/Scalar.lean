/-!
# Scalars

The numbers of the ray tracer. Geometry, shading and image formation are
written once over a type of scalars that carries the operations they use and no
laws. The program computes with binary floating point numbers
(`RayTracer.Scalar.Binary64`); an ordered field, with an infinite element for
unbounded queries, is another instance, in which the same definitions are exact.

Two comparisons appear. `<`, `≤` and `==` are the partial comparisons of
floating point, false on values that are not numbers. `Scalar.totalCompare` is
a total order on all values, used for sorting.
-/

set_option autoImplicit false

namespace RayTracer

/-- The operations on scalars that the ray tracer uses. -/
class Scalar (S : Type) extends Add S, Sub S, Mul S, Div S, Neg S, LT S, LE S, BEq S where
  /-- The order `<` is decidable. -/
  decidableLT : DecidableRel ((· < ·) : S → S → Prop)
  /-- The order `≤` is decidable. -/
  decidableLE : DecidableRel ((· ≤ ·) : S → S → Prop)
  /-- The scalar of a natural number. -/
  ofNat : Nat → S
  /-- The scalar of a decimal numeral: `mantissa * 10 ^ exponent`, or
  `mantissa / 10 ^ exponent` when the exponent is marked negative. -/
  ofScientific (mantissa : Nat) (negativeExponent : Bool) (exponent : Nat) : S
  /-- The value above all numbers. -/
  infinity : S
  /-- Magnitude. -/
  abs : S → S
  /-- Square root. -/
  sqrt : S → S
  /-- Exponential function. -/
  exp : S → S
  /-- Sine of an angle in radians. -/
  sin : S → S
  /-- Cosine of an angle in radians. -/
  cos : S → S
  /-- Tangent of an angle in radians. -/
  tan : S → S
  /-- Power with a scalar exponent. -/
  pow : S → S → S
  /-- A total order on all values, whatever they are. -/
  totalCompare : S → S → Ordering

variable {S : Type} [Scalar S]

/-- The order `<` on scalars is decidable. -/
instance instDecidableLTScalar (first second : S) : Decidable (first < second) :=
  Scalar.decidableLT first second

/-- The order `≤` on scalars is decidable. -/
instance instDecidableLEScalar (first second : S) : Decidable (first ≤ second) :=
  Scalar.decidableLE first second

/-- Natural number literals denote scalars. -/
instance (priority := low) instOfNatScalar (value : Nat) : OfNat S value := ⟨Scalar.ofNat value⟩

/-- Decimal literals denote scalars. -/
instance (priority := low) instOfScientificScalar : OfScientific S := ⟨Scalar.ofScientific⟩

/-- The zero scalar stands for an unspecified one. -/
instance (priority := low) instInhabitedScalar : Inhabited S := ⟨0⟩

/-- Tolerance for degenerate lengths, parallel rays and surface offsets. -/
def epsilon : S := 1e-9

namespace Scalar

/-- A value is not a number when it differs from itself. -/
@[inline] def isNaN (value : S) : Bool := !(value == value)

/-- The larger of two values; a value that is not a number gives way to the other. -/
@[inline] def maxNum (first second : S) : S :=
  if first < second ∨ isNaN first then second else first

/-- The smaller of two values; a value that is not a number gives way to the other. -/
@[inline] def minNum (first second : S) : S :=
  if second < first ∨ isNaN first then second else first

/-- The nearest value of an interval. A value that is not a number stays as it is. -/
@[inline] def clamp (value lower upper : S) : S :=
  let raised := if value < lower then lower else value
  if upper < raised then upper else raised

/-- The square. -/
@[inline] def square (value : S) : S := value * value

/-- The fifth power, from the square of the square. -/
@[inline] def fifthPower (value : S) : S := value * ((value * value) * (value * value))

/-- An angle in radians from one in degrees. -/
def radians (degrees : S) : S := degrees * 0.017453292519943295

end Scalar

/-! ## Conversions -/

/-- Conversion between scalars and the 32-bit numbers of pictures and mesh files. -/
class Single (S : Type) where
  /-- The nearest 32-bit number. -/
  toSingle : S → Float32
  /-- The scalar of a 32-bit number. -/
  ofSingle : Float32 → S

/-- Scalars that decimal numerals are read as. -/
class OfDecimal (S : Type) where
  /-- The scalar nearest to `mantissa * 10 ^ exponent`, negated when marked. -/
  ofDecimal (negative : Bool) (mantissa : Nat) (exponent : Int) : S

end RayTracer
