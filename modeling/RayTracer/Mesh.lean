import RayTracer.Triangle

/-!
# Triangle meshes

A mesh is a list of shared vertices and a list of faces that refer to three of
them each. Vertex normals and texture coordinates are optional; when they are
given, there is one for every vertex.

Nothing forces the indices of a face to be in range, so the queries fault with
`OutOfRange` when they read a vertex that is not there.

A mesh is tested against a ray triangle by triangle (`Mesh.closestAmong`). The
parameter of the nearest hit so far is the bound for the triangles that remain,
so that of several nearest triangles the first is reported.
-/

set_option autoImplicit false

namespace RayTracer

/-- The indices of the three vertices of a face. -/
abbrev Face := Corners Nat

/-- A mesh of triangles with shared vertices. -/
structure Mesh (S : Type) where
  /-- The vertices. -/
  positions : Array (Vec3 S)
  /-- The normals of the vertices, or none at all. -/
  normals : Array (Vec3 S)
  /-- The texture coordinates of the vertices, or none at all. -/
  uvws : Array (Vec3 S)
  /-- The faces. -/
  faces : Array Face
  /-- The box around all vertices. -/
  bounds : Box S
deriving Repr, DecidableEq

/-- The nearest triangle found by a search. -/
structure Nearest (S : Type) where
  /-- The index of the triangle. -/
  triangle : Nat
  /-- The hit on the triangle. -/
  hit : TriangleHit S
deriving Repr, DecidableEq

variable {S : Type} [Scalar S]

namespace Mesh

/-- The mesh without vertices. -/
def empty : Mesh S := ⟨#[], #[], #[], #[], .empty⟩

/-- The mesh with given vertices, normals and faces and no texture coordinates. -/
def ofParts (positions normals : Array (Vec3 S)) (faces : Array Face) : Mesh S :=
  ⟨positions, normals, #[], faces, .ofPoints positions.toList⟩

/-! ## Editing -/

/-- The index that the next vertex gets. -/
def nextVertex (mesh : Mesh S) : Nat := mesh.positions.size

/-- Add a vertex after the texture coordinates have been settled. The answer is
its index, as a number of 32 bits. -/
def pushVertex (mesh : Mesh S) (position normal : Vec3 S) : Mesh S × Nat :=
  let mesh := { mesh with
    positions := mesh.positions.push position
    normals := mesh.normals.push normal
    bounds := mesh.bounds.insert position }
  (mesh, (mesh.positions.size - 1) % UInt32.size)

/-- Add a vertex without texture coordinates. It gets zero when other vertices
have them. The answer is its index. -/
def addVertex (mesh : Mesh S) (position normal : Vec3 S) : Mesh S × Nat :=
  let uvws := if mesh.uvws.isEmpty then mesh.uvws else mesh.uvws.push 0
  { mesh with uvws }.pushVertex position normal

/-- Add a vertex with texture coordinates. Earlier vertices without them get
zero. The answer is its index. -/
def addVertexWithUvw (mesh : Mesh S) (position normal uvw : Vec3 S) : Mesh S × Nat :=
  let count := mesh.positions.size
  let aligned := mesh.uvws.take count ++ Array.replicate (count - mesh.uvws.size) 0
  { mesh with uvws := aligned.push uvw }.pushVertex position normal

/-- Add a face. -/
def addFace (mesh : Mesh S) (face : Face) : Mesh S :=
  { mesh with faces := mesh.faces.push face }

/-! ## Triangles of a mesh -/

/-- The values that an array holds for the corners of a face. -/
def gather {α : Type} (values : Array α) (face : Face) : Except OutOfRange (Corners α) := do
  let a ← fetch values face.a
  let b ← fetch values face.b
  let c ← fetch values face.c
  return ⟨a, b, c⟩

/-- The corners of a triangle. -/
def corners (mesh : Mesh S) (triangle : Nat) : Except OutOfRange (Corners (Vec3 S)) := do
  let face ← fetch mesh.faces triangle
  gather mesh.positions face

/-- The hit of a ray on a triangle. -/
def meet (mesh : Mesh S) (triangle : Nat) (ray : Ray S) (bound : S) :
    Except OutOfRange (Option (TriangleHit S)) := do
  let corners ← mesh.corners triangle
  return corners.meet ray bound

/-- The normal at a point of a triangle: interpolated between the vertex
normals when there is one for every vertex, and across the triangle otherwise. -/
def normalAt (mesh : Mesh S) (triangle : Nat) (weights : Vec3 S) : Except OutOfRange (Vec3 S) := do
  if mesh.normals.size = mesh.positions.size then
    let face ← fetch mesh.faces triangle
    let normals ← gather mesh.normals face
    return (normals.interpolate weights).unit
  else
    let corners ← mesh.corners triangle
    return corners.areaVector.unit

/-- The texture coordinates at a point of a triangle, zero when the mesh does
not have them for every vertex. -/
def uvwAt (mesh : Mesh S) (triangle : Nat) (weights : Vec3 S) : Except OutOfRange (Vec3 S) := do
  if mesh.uvws.size = mesh.positions.size then
    let face ← fetch mesh.faces triangle
    let uvws ← gather mesh.uvws face
    return uvws.interpolate weights
  else
    return 0

/-- The surface hit for a hit on a triangle. -/
def surfaceHit (mesh : Mesh S) (triangle : Nat) (hit : TriangleHit S) :
    Except OutOfRange (SurfaceHit S) := do
  let normal ← mesh.normalAt triangle hit.weights
  let uvw ← mesh.uvwAt triangle hit.weights
  return ⟨hit.lambda, normal, uvw⟩

/-! ## Queries -/

/-- The bound for the triangles that remain in a search. -/
def remainingBound (bound : S) : Option (Nearest S) → S
  | none => bound
  | some nearest => nearest.hit.lambda

/-- One step of a search for the nearest triangle. -/
def closer (mesh : Mesh S) (ray : Ray S) (bound : S) (nearest : Option (Nearest S))
    (triangle : Nat) : Except OutOfRange (Option (Nearest S)) := do
  match ← mesh.meet triangle ray (remainingBound bound nearest) with
  | some hit => return some ⟨triangle, hit⟩
  | none => return nearest

/-- The nearest of the given triangles that a ray hits. -/
def nearestAmong (mesh : Mesh S) (ray : Ray S) (bound : S) (triangles : List Nat) :
    Except OutOfRange (Option (Nearest S)) :=
  triangles.foldlM (mesh.closer ray bound) none

/-- The nearest hit of a ray on the given triangles. -/
def closestAmong (mesh : Mesh S) (ray : Ray S) (bound : S) (triangles : List Nat) :
    Except OutOfRange (Option (SurfaceHit S)) := do
  match ← mesh.nearestAmong ray bound triangles with
  | none => return none
  | some nearest => return some (← mesh.surfaceHit nearest.triangle nearest.hit)

/-- A ray hits one of the given triangles. The search stops at the first hit. -/
def anyAmong (mesh : Mesh S) (ray : Ray S) (bound : S) : List Nat → Except OutOfRange Bool
  | [] => return false
  | triangle :: rest => do
    match ← mesh.meet triangle ray bound with
    | some _ => return true
    | none => mesh.anyAmong ray bound rest

/-- The indices of all triangles. -/
def triangles (mesh : Mesh S) : List Nat := List.range mesh.faces.size

/-- The nearest hit of a ray on a mesh. -/
def closest (mesh : Mesh S) (ray : Ray S) (bound : S) : Except OutOfRange (Option (SurfaceHit S)) :=
  mesh.closestAmong ray bound mesh.triangles

/-- A ray hits a mesh. -/
def any (mesh : Mesh S) (ray : Ray S) (bound : S) : Except OutOfRange Bool :=
  mesh.anyAmong ray bound mesh.triangles

end Mesh

end RayTracer
