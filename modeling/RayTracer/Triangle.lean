import RayTracer.Box
import RayTracer.Hit

/-!
# Triangles

`Corners.meet` is the intersection test of a ray and three corners, shared by
single triangles and triangles of a mesh. The parameter of the ray and the
weights of the second and third corner solve three linear equations
(`Corners.crossing`, by Cramer's rule). Edges belong to the triangle.

A single triangle has a flat normal that turns towards the ray, and texture
coordinates interpolated between its corners.
-/

set_option autoImplicit false

namespace RayTracer

/-- One value for each corner of a triangle. -/
@[ext] structure Corners (α : Type) where
  /-- The value of the first corner. -/
  a : α
  /-- The value of the second corner. -/
  b : α
  /-- The value of the third corner. -/
  c : α
deriving Repr, DecidableEq, Inhabited

namespace Corners

/-- The values of the corners in order. -/
def toList {α : Type} (corners : Corners α) : List α := [corners.a, corners.b, corners.c]

/-- Corner values computed from corner values. -/
def map {α β : Type} (function : α → β) (corners : Corners α) : Corners β :=
  ⟨function corners.a, function corners.b, function corners.c⟩

variable {S : Type} [Scalar S]

/-- The magnitude of the determinant below which a ray counts as parallel to a
triangle, or the triangle as degenerate. -/
def parallelThreshold : S := 1e-14

/-- The weighted sum of the corner values. -/
def interpolate (corners : Corners (Vec3 S)) (weights : Vec3 S) : Vec3 S :=
  weights.x • corners.a + weights.y • corners.b + weights.z • corners.c

/-- The vector across the plane of a triangle, twice its area long, from which
the corners are seen counter-clockwise. -/
def areaVector (corners : Corners (Vec3 S)) : Vec3 S :=
  (corners.b - corners.a).cross (corners.c - corners.a)

/-- The point in which the line of a ray passes through a triangle. -/
def crossing (corners : Corners (Vec3 S)) (ray : Ray S) : Option (TriangleHit S) :=
  let toSecond := corners.b - corners.a
  let toThird := corners.c - corners.a
  let across := ray.direction.cross toThird
  let determinant := toSecond.dot across
  if Scalar.abs determinant < parallelThreshold then none
  else
    let inverse := 1 / determinant
    let offset := ray.origin - corners.a
    let second := inverse * offset.dot across
    let around := offset.cross toSecond
    let third := inverse * ray.direction.dot around
    if 0 ≤ second ∧ second ≤ 1 ∧ ¬(third < 0 ∨ 1 < second + third) then
      some ⟨inverse * toThird.dot around, ⟨1 - second - third, second, third⟩⟩
    else none

/-- The hit of a ray on a triangle. -/
def meet (corners : Corners (Vec3 S)) (ray : Ray S) (bound : S) : Option (TriangleHit S) :=
  (corners.crossing ray).filter fun hit => InRange hit.lambda bound

end Corners

/-- A triangle with texture coordinates. -/
structure Triangle (S : Type) where
  /-- The corners. -/
  corners : Corners (Vec3 S)
  /-- The texture coordinates of the corners. -/
  uvw : Corners (Vec3 S)
  /-- The unit normal, or zero for a degenerate triangle. -/
  normal : Vec3 S
deriving Repr, DecidableEq

namespace Triangle

variable {S : Type} [Scalar S]

/-- The triangle with given corners and texture coordinates. -/
def textured (corners uvw : Corners (Vec3 S)) : Triangle S :=
  ⟨corners, uvw, corners.areaVector.unit⟩

/-- The triangle with given corners and no texture coordinates. -/
def ofCorners (corners : Corners (Vec3 S)) : Triangle S := textured corners ⟨0, 0, 0⟩

/-- The hit of a ray on a triangle, with the weights of the corners. -/
def meet (triangle : Triangle S) (ray : Ray S) (bound : S) : Option (TriangleHit S) :=
  triangle.corners.meet ray bound

/-- The normal of a triangle on the side a direction comes from. -/
def facingNormal (triangle : Triangle S) (direction : Vec3 S) : Vec3 S :=
  if 0 < direction.dot triangle.normal then -triangle.normal else triangle.normal

/-- The hit of a ray on a triangle. -/
def closest (triangle : Triangle S) (ray : Ray S) (bound : S) : Option (SurfaceHit S) :=
  (triangle.meet ray bound).map fun hit =>
    ⟨hit.lambda, triangle.facingNormal ray.direction, triangle.uvw.interpolate hit.weights⟩

/-- A ray meets a triangle. -/
def any (triangle : Triangle S) (ray : Ray S) (bound : S) : Bool :=
  (triangle.meet ray bound).isSome

/-- The box around a triangle. -/
def bounds (triangle : Triangle S) : Box S := .ofPoints triangle.corners.toList

end Triangle

end RayTracer
