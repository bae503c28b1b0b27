import RayTracer.Scalar

/-!
# Vectors

Vectors of three scalars: points, directions and colours. Addition,
subtraction and multiplication of vectors are componentwise, `s • v` scales a
vector and `v / s` divides it. Products and sums are evaluated from left to
right, so that the rounding of every operation is determined.

`Vec3.unit` is the direction of a vector. It is total: a vector whose length is
at most `epsilon` has the zero vector for direction.
-/

set_option autoImplicit false

namespace RayTracer

/-- A vector of three scalars. -/
@[ext] structure Vec3 (S : Type) where
  /-- The first component. -/
  x : S
  /-- The second component. -/
  y : S
  /-- The third component. -/
  z : S
deriving Repr, DecidableEq, Inhabited

/-- The three coordinate axes. -/
inductive Axis where
  /-- The first axis. -/
  | x
  /-- The second axis. -/
  | y
  /-- The third axis. -/
  | z
deriving Repr, DecidableEq, Inhabited

/-- The axes in their order. -/
def Axis.all : List Axis := [.x, .y, .z]

namespace Vec3

variable {S : Type}

/-- The component of a vector along an axis. -/
@[inline] def get (vector : Vec3 S) : Axis → S
  | .x => vector.x
  | .y => vector.y
  | .z => vector.z

/-- The vector with one value in every component. -/
@[inline] def splat (value : S) : Vec3 S := ⟨value, value, value⟩

/-- The components in order. -/
def toList (vector : Vec3 S) : List S := [vector.x, vector.y, vector.z]

/-- A vector computed component by component. -/
@[inline] def map {T : Type} (function : S → T) (vector : Vec3 S) : Vec3 T :=
  ⟨function vector.x, function vector.y, function vector.z⟩

/-- A vector computed from two vectors component by component. -/
@[inline] def zipWith {T U : Type} (function : S → T → U) (first : Vec3 S) (second : Vec3 T) :
    Vec3 U :=
  ⟨function first.x second.x, function first.y second.y, function first.z second.z⟩

variable [Scalar S]

/-- Vectors are added componentwise. -/
@[inline] instance instAdd : Add (Vec3 S) := ⟨zipWith (· + ·)⟩

/-- Vectors are subtracted componentwise. -/
@[inline] instance instSub : Sub (Vec3 S) := ⟨zipWith (· - ·)⟩

/-- Vectors, as colours, are multiplied componentwise. -/
@[inline] instance instMul : Mul (Vec3 S) := ⟨zipWith (· * ·)⟩

/-- A vector is negated componentwise. -/
@[inline] instance instNeg : Neg (Vec3 S) := ⟨map (- ·)⟩

/-- A vector is scaled by a scalar. -/
@[inline] instance instHSMul : HSMul S (Vec3 S) (Vec3 S) := ⟨fun factor => map (factor * ·)⟩

/-- A vector is divided by a scalar. -/
@[inline] instance instHDiv : HDiv (Vec3 S) S (Vec3 S) :=
  ⟨fun vector divisor => vector.map (· / divisor)⟩

/-- The zero vector. -/
@[inline] instance instZero : Zero (Vec3 S) := ⟨splat 0⟩

/-- The unit vector along an axis. -/
def basis : Axis → Vec3 S
  | .x => ⟨1, 0, 0⟩
  | .y => ⟨0, 1, 0⟩
  | .z => ⟨0, 0, 1⟩

/-- The componentwise minimum. -/
@[inline] def inf (first second : Vec3 S) : Vec3 S := zipWith Scalar.minNum first second

/-- The componentwise maximum. -/
@[inline] def sup (first second : Vec3 S) : Vec3 S := zipWith Scalar.maxNum first second

/-- The inner product. -/
@[inline] def dot (first second : Vec3 S) : S :=
  first.x * second.x + first.y * second.y + first.z * second.z

/-- The cross product. -/
@[inline] def cross (first second : Vec3 S) : Vec3 S :=
  ⟨first.y * second.z - second.y * first.z,
    first.z * second.x - second.z * first.x,
    first.x * second.y - second.x * first.y⟩

/-- The squared length. -/
@[inline] def normSquared (vector : Vec3 S) : S := vector.dot vector

/-- The length. -/
@[inline] def norm (vector : Vec3 S) : S := Scalar.sqrt vector.normSquared

/-- The largest component. -/
def greatest (vector : Vec3 S) : S :=
  Scalar.maxNum vector.x (Scalar.maxNum vector.y vector.z)

/-- The sum of the components. -/
def total (vector : Vec3 S) : S := vector.x + vector.y + vector.z

/-- The direction of a vector: the vector divided by its length, or the zero
vector when it is too short to have one. -/
def unit (vector : Vec3 S) : Vec3 S :=
  let length := vector.norm
  if epsilon < length then vector / length else 0

/-- The direction of a vector of any length, from the inverse of its length; the
zero vector when that inverse is not a positive number. -/
def unitOrZero (vector : Vec3 S) : Vec3 S :=
  let inverse := 1 / vector.norm
  if 0 < inverse ∧ inverse < Scalar.infinity then inverse • vector else 0

/-- The mirror image of a direction in the plane with a given unit normal. -/
def reflect (direction normal : Vec3 S) : Vec3 S :=
  direction - (2 * direction.dot normal) • normal

/-- The point a fraction of the way from one vector to another. -/
def lerp (first second : Vec3 S) (fraction : S) : Vec3 S :=
  (1 - fraction) • first + fraction • second

end Vec3

end RayTracer
