import RayTracer.Bvh.Traverse

/-!
# Accelerated meshes

A mesh together with a tree of boxes over its triangles. Only the triangles
that the tree reports for a ray are tested.

The tree is built on request and dropped as soon as the mesh is edited, so a
tree always belongs to the present mesh. Without a tree the mesh behaves as if
it had no triangles.
-/

set_option autoImplicit false

namespace RayTracer

/-- A mesh that may have a tree of boxes. -/
structure AcceleratedMesh (S : Type) where
  /-- The mesh. -/
  mesh : Mesh S
  /-- The tree of boxes over its triangles, once built. -/
  tree : Option (Bvh S)
deriving Repr, DecidableEq

namespace AcceleratedMesh

variable {S : Type} [Scalar S]

/-- A mesh without a tree. -/
def ofMesh (mesh : Mesh S) : AcceleratedMesh S := ⟨mesh, none⟩

/-- The tree has been built. -/
def hasTree (accelerated : AcceleratedMesh S) : Bool := accelerated.tree.isSome

/-- Edit the mesh. This drops the tree. -/
def edit (accelerated : AcceleratedMesh S) (change : Mesh S → Mesh S) : AcceleratedMesh S :=
  ofMesh (change accelerated.mesh)

/-- Build the tree. -/
def buildTree (accelerated : AcceleratedMesh S) : AcceleratedMesh S :=
  { accelerated with tree := some (.build accelerated.mesh.positions accelerated.mesh.faces) }

/-- The triangles to test for a ray. -/
def candidates (accelerated : AcceleratedMesh S) (ray : Ray S) (bound : S) :
    Except OutOfRange (List Nat) :=
  match accelerated.tree with
  | none => return []
  | some tree => return (← tree.candidates ray bound).toList

/-- The nearest hit of a ray. -/
def closest (accelerated : AcceleratedMesh S) (ray : Ray S) (bound : S) :
    Except OutOfRange (Option (SurfaceHit S)) := do
  let candidates ← accelerated.candidates ray bound
  accelerated.mesh.closestAmong ray bound candidates

/-- A ray hits the mesh. -/
def any (accelerated : AcceleratedMesh S) (ray : Ray S) (bound : S) : Except OutOfRange Bool := do
  let candidates ← accelerated.candidates ray bound
  accelerated.mesh.anyAmong ray bound candidates

/-- The box around all vertices. -/
def bounds (accelerated : AcceleratedMesh S) : Box S := accelerated.mesh.bounds

end AcceleratedMesh

end RayTracer
