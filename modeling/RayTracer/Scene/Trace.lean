import RayTracer.Scene.Query

/-!
# Tracing rays

The light that a ray sees. Where the ray meets nothing, that is the background.
Where it meets a renderable, every light adds its ambient part, and its direct
part when the renderable is visible from the light. A reflective material mixes
this with what the mirrored ray sees, up to a greatest depth of recursion.

Shadow rays and mirrored rays avoid the surface they belong to: they end or
start at a point slightly above it (`Intersection.safePoint`).

The colour of a picture is scaled by the light intensity at the end. The
background is not to be scaled, so what a mirrored ray sees of it is divided by
the intensity first.
-/

set_option autoImplicit false

namespace RayTracer

variable {S : Type} [Scalar S]

/-- A point slightly above the surface at an intersection. -/
def Intersection.safePoint (intersection : Intersection S) : Vec3 S :=
  intersection.position + (epsilon : S) • intersection.normal

/-- The ray mirrored at an intersection. -/
def Intersection.mirrored (intersection : Intersection S) : Ray S :=
  .along intersection.safePoint (intersection.ray.direction.reflect intersection.normal)

/-- What a ray sees. -/
@[ext] structure Sighting (S : Type) where
  /-- The colour. -/
  color : Color S
  /-- The ray met a renderable. -/
  found : Bool
deriving Repr, DecidableEq

namespace Scene

/-- A surface point is hidden from a light. -/
def shadowed (scene : Scene S) (point : Vec3 S) (light : Light S) : Except OutOfRange Bool :=
  let toSurface := point - light.position
  scene.any (.along light.position toSurface) toSurface.norm

/-- Add the contribution of a light to the colour of an intersection. -/
def addContribution (scene : Scene S) (material : Material S) (intersection : Intersection S)
    (color : Color S) (light : Light S) : Counted (Color S) := do
  let color := color + material.ambient intersection light
  if ← .uncounted (scene.shadowed intersection.safePoint light) then
    return color
  else
    Counted.shading
    return color + material.direct intersection light

/-- The light that an intersection receives from the lights of a scene and sends
back along its ray. -/
def localColor (scene : Scene S) (material : Material S) (intersection : Intersection S) :
    Counted (Color S) :=
  scene.lights.foldlM (scene.addContribution material intersection) 0

/-- The light that arrives along a mirrored ray. -/
def incident (scene : Scene S) (sighting : Sighting S) : Color S :=
  if !sighting.found ∧ epsilon < scene.lightIntensity then
    sighting.color / scene.lightIntensity
  else sighting.color

/-- The mixture of the light of an intersection and the light it mirrors. -/
def mix (material : Material S) (color incident : Color S) : Color S :=
  (1 - material.reflectance) • color + material.reflectance • (incident * material.absorption)

mutual

/-- What a ray sees at a depth of recursion. -/
def trace (scene : Scene S) (ray : Ray S) (depth greatestDepth : Nat) : Counted (Sighting S) := do
  match ← .uncounted (scene.closest ray Scalar.infinity) with
  | none => return ⟨scene.background, false⟩
  | some intersection =>
    Counted.intersection
    return ⟨← scene.shade intersection depth greatestDepth, true⟩
termination_by (greatestDepth - depth, 1)

/-- The light that leaves an intersection back along its ray. -/
def shade (scene : Scene S) (intersection : Intersection S) (depth greatestDepth : Nat) :
    Counted (Color S) :=
  match scene.renderables[intersection.renderable]? with
  | none => return scene.background
  | some renderable => do
    let material := renderable.material
    let color ← scene.localColor material intersection
    if depth < greatestDepth ∧ 0 < material.reflectance then
      let sighting ← scene.trace intersection.mirrored (depth + 1) greatestDepth
      return mix material color (scene.incident sighting)
    else
      return color
termination_by (greatestDepth - depth, 0)

end

end Scene

end RayTracer
