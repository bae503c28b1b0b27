import RayTracer.Ingest.Buffer
import RayTracer.Matrix
import RayTracer.Scene.Basic

/-!
# Bringing meshes into a scene

A mesh from outside is checked, transformed into the world and turned into an
accelerated mesh. Positions and normals must be given, with three values for
each vertex and for the same number of vertices, and the triangles must refer to
vertices that exist.

A list of meshes is added to a scene mesh by mesh. A mesh that fails the checks
is skipped with a warning.
-/

set_option autoImplicit false

namespace RayTracer

/-- A mesh from outside. -/
structure MeshInput (S : Type) where
  /-- The vertices, when given. -/
  positions : Option (AttributeBuffer S)
  /-- The normals of the vertices, when given. -/
  normals : Option (AttributeBuffer S)
  /-- The transformation from the mesh to the world. -/
  toWorld : Matrix4 S
  /-- The triangles. -/
  indexBuffers : List IndexBuffer
deriving Repr, DecidableEq

/-- Why a mesh cannot be used. -/
inductive IngestError where
  /-- There are no positions. -/
  | missingPositions
  /-- The positions do not have three components. -/
  | positionComponents (components : Nat)
  /-- There are no normals. -/
  | missingNormals
  /-- The normals do not have three components. -/
  | normalComponents (components : Nat)
  /-- There are more or fewer normals than positions. -/
  | vertexNormalMismatch (positions normals : Nat)
  /-- A triangle refers to a vertex that does not exist. -/
  | indexOutOfRange (index vertexCount : Nat)
deriving Repr, DecidableEq

/-- The text of an error. -/
def IngestError.message : IngestError → String
  | .missingPositions => "mesh has no position buffer"
  | .positionComponents components => s!"positions must have 3 components, got {components}"
  | .missingNormals => "mesh has no normal buffer"
  | .normalComponents components => s!"normals must have 3 components, got {components}"
  | .vertexNormalMismatch positions normals => s!"{positions} positions but {normals} normals"
  | .indexOutOfRange index vertexCount => s!"index {index} out of range for {vertexCount} vertices"

/-- The buffers of a mesh that have passed the checks. -/
structure VertexData (S : Type) where
  /-- The vertices. -/
  positions : List (Vec3 S)
  /-- Their normals. -/
  normals : List (Vec3 S)
  /-- The number of vertices. -/
  count : Nat

variable {S : Type} [Scalar S]

namespace MeshInput

/-- A mesh without data that stays where it is. -/
def empty : MeshInput S := ⟨none, none, .identity, []⟩

/-- Check the positions and normals of a mesh. -/
def vertexData (input : MeshInput S) : Except IngestError (VertexData S) := do
  let some positions := input.positions | .error .missingPositions
  if positions.components ≠ 3 then .error (.positionComponents positions.components)
  let some normals := input.normals | .error .missingNormals
  if normals.components ≠ 3 then .error (.normalComponents normals.components)
  if normals.count ≠ positions.count then
    .error (.vertexNormalMismatch positions.count normals.count)
  return ⟨positions.vectors, normals.vectors, positions.count⟩

/-- The mesh of the transformed vertices, without faces. -/
def worldVertices (input : MeshInput S) (data : VertexData S) : Mesh S :=
  let normalMatrix := input.toWorld.normalMatrix
  (data.positions.zip data.normals).foldl (fun mesh vertex =>
    (mesh.addVertex (input.toWorld.transformPoint vertex.1) (normalMatrix.apply vertex.2).unit).1)
    .empty

/-- Add a face whose vertices exist. -/
def addFace (vertexCount : Nat) (mesh : Mesh S) (face : Face) : Except IngestError (Mesh S) :=
  match face.toList.find? (vertexCount ≤ ·) with
  | some index => .error (.indexOutOfRange index vertexCount)
  | none => .ok (mesh.addFace face)

/-- The faces of a mesh. -/
def faces (input : MeshInput S) : List Face := input.indexBuffers.flatMap IndexBuffer.triangles

/-- Turn a mesh from outside into an accelerated mesh, without a tree yet. -/
def ingest (input : MeshInput S) : Except IngestError (AcceleratedMesh S) := do
  let data ← input.vertexData
  let mesh ← input.faces.foldlM (addFace data.count) (input.worldVertices data)
  return .ofMesh mesh

end MeshInput

/-! ## Adding meshes to a scene -/

/-- The result of adding meshes to a scene. -/
structure Addition (S : Type) where
  /-- The scene with the meshes. -/
  scene : Scene S
  /-- The number of meshes added. -/
  added : Nat
  /-- A warning for each mesh that was skipped. -/
  warnings : List String
deriving Repr

/-- Add a mesh, or skip it with a warning. -/
def Addition.addMesh (material : Material S) (addition : Addition S) (index : Nat)
    (input : MeshInput S) : Addition S :=
  match input.ingest with
  | .ok mesh =>
    { addition with
      scene := (addition.scene.add ⟨.accelerated mesh, material⟩).1
      added := addition.added + 1 }
  | .error error =>
    { addition with
      warnings := addition.warnings ++ [s!"Skipping mesh {index}: " ++ error.message] }

/-- Add meshes numbered from an index on. -/
def Addition.addMeshesFrom (material : Material S) (addition : Addition S) (index : Nat) :
    List (MeshInput S) → Addition S
  | [] => addition
  | input :: rest => addMeshesFrom material (addition.addMesh material index input) (index + 1) rest

/-- Add all usable meshes, with one material. -/
def Scene.addMeshes (scene : Scene S) (inputs : List (MeshInput S)) (material : Material S) :
    Addition S :=
  Addition.addMeshesFrom material ⟨scene, 0, []⟩ 0 inputs

end RayTracer
