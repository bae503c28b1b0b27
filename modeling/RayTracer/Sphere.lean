import RayTracer.Box
import RayTracer.Hit

/-!
# Spheres

A ray meets a sphere at the roots of a quadratic equation. The nearer root in
range is reported, with the outward normal.
-/

set_option autoImplicit false

namespace RayTracer

/-- A sphere. -/
structure Sphere (S : Type) where
  /-- The middle. -/
  centre : Vec3 S
  /-- The distance of the surface from the middle. -/
  radius : S
deriving Repr, DecidableEq

namespace Sphere

variable {S : Type} [Scalar S]

/-- The sphere of a centre and a radius; a negative radius counts as zero. -/
def around (centre : Vec3 S) (radius : S) : Sphere S := ⟨centre, Scalar.maxNum radius 0⟩

/-- The sphere of radius one around the coordinate origin. -/
def unit : Sphere S := around 0 1

/-- The first parameter in range at which a ray meets a sphere. -/
def root (sphere : Sphere S) (ray : Ray S) (bound : S) : Option S :=
  let offset := sphere.centre - ray.origin
  let leading := ray.direction.normSquared
  if leading == 0 then none
  else
    let half := ray.direction.dot offset
    let constant := offset.normSquared - sphere.radius * sphere.radius
    let discriminant := half * half - leading * constant
    if discriminant < 0 then none
    else
      let spread := Scalar.sqrt discriminant
      let near := (half - spread) / leading
      let far := (half + spread) / leading
      if InRange near bound then some near
      else if InRange far bound then some far
      else none

/-- The first hit of a ray on a sphere. -/
def closest (sphere : Sphere S) (ray : Ray S) (bound : S) : Option (SurfaceHit S) :=
  (sphere.root ray bound).map fun lambda =>
    ⟨lambda, (ray.pointAt lambda - sphere.centre).unit, 0⟩

/-- The box around a sphere. -/
def bounds (sphere : Sphere S) : Box S :=
  ⟨sphere.centre - Vec3.splat sphere.radius, sphere.centre + Vec3.splat sphere.radius⟩

end Sphere

end RayTracer
