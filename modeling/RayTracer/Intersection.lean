import RayTracer.Hit

/-!
# Intersections

A hit as the scene sees it: which renderable was hit, by which ray, and where.
-/

set_option autoImplicit false

namespace RayTracer

/-- A ray meeting a renderable of a scene. -/
@[ext] structure Intersection (S : Type) where
  /-- The ray. -/
  ray : Ray S
  /-- The number of the renderable. -/
  renderable : Nat
  /-- The parameter along the ray. -/
  lambda : S
  /-- The point of the ray at the parameter. -/
  position : Vec3 S
  /-- The surface normal. -/
  normal : Vec3 S
  /-- The texture coordinates. -/
  uvw : Vec3 S
deriving Repr, DecidableEq

/-- The intersection of a ray and a renderable at a hit. -/
def Intersection.ofHit {S : Type} [Scalar S] (ray : Ray S) (renderable : Nat)
    (hit : SurfaceHit S) : Intersection S :=
  ⟨ray, renderable, hit.lambda, ray.pointAt hit.lambda, hit.normal, hit.uvw⟩

end RayTracer
