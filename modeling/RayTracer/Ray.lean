import RayTracer.Vec3

/-!
# Rays

Half-lines from an origin along a direction. The constructors normalise the
direction; a direction too short to normalise becomes zero, and such a ray
meets nothing.
-/

set_option autoImplicit false

namespace RayTracer

/-- A half-line from an origin along a direction. -/
@[ext] structure Ray (S : Type) where
  /-- Where the ray starts. -/
  origin : Vec3 S
  /-- Where the ray goes. -/
  direction : Vec3 S
deriving Repr, DecidableEq

namespace Ray

variable {S : Type} [Scalar S]

/-- The ray from a point along a direction of any length. -/
def along (origin direction : Vec3 S) : Ray S := ⟨origin, direction.unit⟩

/-- The ray from one point through another. -/
def through (origin target : Vec3 S) : Ray S := along origin (target - origin)

/-- The ray from the coordinate origin along the third axis. -/
def vertical : Ray S := ⟨0, Vec3.basis .z⟩

/-- The point of a ray at a parameter. -/
@[inline] def pointAt (ray : Ray S) (lambda : S) : Vec3 S := ray.origin + lambda • ray.direction

/-- The vertical ray stands for an unspecified one. -/
instance instInhabited : Inhabited (Ray S) := ⟨vertical⟩

end Ray

end RayTracer
