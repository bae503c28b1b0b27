import RayTracer.Scene.Basic

/-!
# Queries of scenes

The nearest intersection of a ray with a scene, and whether there is one. The
parameter of the nearest intersection so far bounds the search in the
renderables that remain, so of several nearest renderables the first added is
reported.
-/

set_option autoImplicit false

namespace RayTracer.Scene

variable {S : Type} [Scalar S]

/-- The bound for the renderables that remain in a search. -/
def remainingBound (bound : S) : Option (Intersection S) → S
  | none => bound
  | some nearest => nearest.lambda

/-- One step of a search for the nearest intersection. -/
def closer (ray : Ray S) (bound : S) (nearest : Option (Intersection S)) (number : Nat)
    (renderable : Renderable S) : Except OutOfRange (Option (Intersection S)) := do
  let remaining := remainingBound bound nearest
  match ← renderable.shape.closest ray remaining with
  | some hit =>
    if hit.lambda < remaining then return some (.ofHit ray number hit) else return nearest
  | none => return nearest

/-- Search the renderables from a number on for a nearer intersection. -/
def nearestFrom (ray : Ray S) (bound : S) (nearest : Option (Intersection S)) (number : Nat) :
    List (Renderable S) → Except OutOfRange (Option (Intersection S))
  | [] => return nearest
  | renderable :: rest => do
    let nearest ← closer ray bound nearest number renderable
    nearestFrom ray bound nearest (number + 1) rest

/-- The nearest intersection of a ray. -/
def closest (scene : Scene S) (ray : Ray S) (bound : S) :
    Except OutOfRange (Option (Intersection S)) :=
  nearestFrom ray bound none 0 scene.renderables

/-- A ray meets one of the given renderables. The search stops at the first. -/
def anyOf (ray : Ray S) (bound : S) : List (Renderable S) → Except OutOfRange Bool
  | [] => return false
  | renderable :: rest => do
    if ← renderable.shape.any ray bound then return true else anyOf ray bound rest

/-- A ray meets a renderable. -/
def any (scene : Scene S) (ray : Ray S) (bound : S) : Except OutOfRange Bool :=
  anyOf ray bound scene.renderables

end RayTracer.Scene
