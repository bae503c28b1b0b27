import RayTracer.AcceleratedMesh
import RayTracer.Plane
import RayTracer.Sphere

/-!
# Shapes

The surfaces a scene is made of, with the queries common to all of them: the
nearest hit of a ray, whether there is a hit at all, preparation before
rendering, and a box around the surface.
-/

set_option autoImplicit false

namespace RayTracer

/-- A surface. -/
inductive Shape (S : Type) where
  /-- A sphere. -/
  | sphere (surface : Sphere S)
  /-- An unbounded plane. -/
  | plane (surface : Plane S)
  /-- A single triangle. -/
  | triangle (surface : Triangle S)
  /-- A mesh tested triangle by triangle. -/
  | mesh (surface : Mesh S)
  /-- A mesh with a tree of boxes. -/
  | accelerated (surface : AcceleratedMesh S)
deriving Repr

namespace Shape

variable {S : Type} [Scalar S]

/-- The nearest hit of a ray on a shape. -/
def closest (shape : Shape S) (ray : Ray S) (bound : S) :
    Except OutOfRange (Option (SurfaceHit S)) :=
  match shape with
  | .sphere surface => return surface.closest ray bound
  | .plane surface => return surface.closest ray bound
  | .triangle surface => return surface.closest ray bound
  | .mesh surface => surface.closest ray bound
  | .accelerated surface => surface.closest ray bound

/-- A ray hits a shape. -/
def any (shape : Shape S) (ray : Ray S) (bound : S) : Except OutOfRange Bool :=
  match shape with
  | .sphere surface => return (surface.closest ray bound).isSome
  | .plane surface => return (surface.closest ray bound).isSome
  | .triangle surface => return surface.any ray bound
  | .mesh surface => surface.any ray bound
  | .accelerated surface => surface.any ray bound

/-- Prepare a shape for queries: an accelerated mesh builds its tree. -/
def prepare (shape : Shape S) : Shape S :=
  match shape with
  | .accelerated surface => .accelerated surface.buildTree
  | other => other

/-- The box around a shape. -/
def bounds (shape : Shape S) : Box S :=
  match shape with
  | .sphere surface => surface.bounds
  | .plane surface => surface.bounds
  | .triangle surface => surface.bounds
  | .mesh surface => surface.bounds
  | .accelerated surface => surface.bounds

end Shape

end RayTracer
