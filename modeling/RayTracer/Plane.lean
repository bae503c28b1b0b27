import RayTracer.Box
import RayTracer.Hit

/-!
# Planes

Unbounded planes. The normal of a plane is the same on both sides: it does not
turn towards the ray.
-/

set_option autoImplicit false

namespace RayTracer

/-- An unbounded plane. -/
structure Plane (S : Type) where
  /-- A point of the plane. -/
  point : Vec3 S
  /-- The unit normal, or zero. -/
  normal : Vec3 S
deriving Repr, DecidableEq

namespace Plane

variable {S : Type} [Scalar S]

/-- The plane through a point across a direction of any length. -/
def through (point normal : Vec3 S) : Plane S := ⟨point, normal.unit⟩

/-- The horizontal plane through the coordinate origin. -/
def ground : Plane S := through 0 (Vec3.basis .z)

/-- The parameter at which the line of a ray passes through a plane. A ray nearly
parallel to the plane does not. -/
def crossing (plane : Plane S) (ray : Ray S) : Option S :=
  let descent := ray.direction.dot plane.normal
  if Scalar.abs descent < epsilon then none
  else some ((plane.point - ray.origin).dot plane.normal / descent)

/-- The hit of a ray on a plane. -/
def closest (plane : Plane S) (ray : Ray S) (bound : S) : Option (SurfaceHit S) :=
  ((plane.crossing ray).filter fun lambda => InRange lambda bound).map fun lambda =>
    ⟨lambda, plane.normal, 0⟩

/-- A plane is unbounded. -/
def bounds (_ : Plane S) : Box S := .everywhere

end Plane

end RayTracer
