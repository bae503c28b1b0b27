import RayTracer.Mesh
import Mathlib.Data.List.Basic

/-!
# Meshes that are put together vertex by vertex

A mesh starts from parts, or from nothing, and vertices and faces are added to it in any
order. Its box is not worked out anew but grows with every vertex. One addition keeps it
the smallest box around all vertices (`Mesh.Bounded.perform`), so it is that after any
number of them (`Mesh.bounded_extend`). The scalars do not matter: the box grows exactly
as the smallest box around a list of points does.
-/

set_option autoImplicit false

namespace RayTracer

variable {S : Type} [Scalar S]

namespace Mesh

/-- An addition to a mesh. -/
inductive Edit (S : Type) where
  /-- A vertex without texture coordinates. -/
  | vertex (position normal : Vec3 S)
  /-- A vertex with texture coordinates. -/
  | vertexWithUvw (position normal uvw : Vec3 S)
  /-- A face. -/
  | face (corners : Face)

/-- Make an addition to a mesh. -/
def Edit.perform (edit : Edit S) (mesh : Mesh S) : Mesh S :=
  match edit with
  | .vertex position normal => (mesh.addVertex position normal).1
  | .vertexWithUvw position normal uvw => (mesh.addVertexWithUvw position normal uvw).1
  | .face corners => mesh.addFace corners

/-- The index that an addition answers with, if it brings a vertex. -/
def Edit.answer? (edit : Edit S) (mesh : Mesh S) : Option Nat :=
  match edit with
  | .vertex position normal => some (mesh.addVertex position normal).2
  | .vertexWithUvw position normal uvw => some (mesh.addVertexWithUvw position normal uvw).2
  | .face _ => none

/-- Make additions to a mesh one after the other. -/
def extend (mesh : Mesh S) (edits : List (Edit S)) : Mesh S :=
  edits.foldl (fun mesh edit => edit.perform mesh) mesh

/-- What every addition adds to a list, a number of additions adds to it in order. -/
theorem toList_extend {α : Type} (part : Mesh S → List α) (brought : Edit S → Option α)
    (step : ∀ edit mesh, part (edit.perform mesh) = part mesh ++ (brought edit).toList)
    (mesh : Mesh S) (edits : List (Edit S)) :
    part (mesh.extend edits) = part mesh ++ edits.filterMap brought := by
  induction edits generalizing mesh with
  | nil => exact (List.append_nil _).symm
  | cons edit rest ih =>
    rw [List.filterMap_eq_flatMap_toList, List.flatMap_cons, ← List.filterMap_eq_flatMap_toList,
      ← List.append_assoc, ← step]
    exact ih (edit.perform mesh)

/-- The box of a mesh is the smallest box around its vertices. -/
def Bounded (mesh : Mesh S) : Prop := mesh.bounds = .ofPoints mesh.positions.toList

theorem bounded_ofParts (positions normals : Array (Vec3 S)) (faces : Array Face) :
    (ofParts positions normals faces).Bounded :=
  rfl

/-- A new vertex grows the box as it grows the list of vertices. -/
theorem Bounded.pushVertex {mesh : Mesh S} (bounded : mesh.Bounded) (position normal : Vec3 S) :
    (mesh.pushVertex position normal).1.Bounded := by
  change mesh.bounds.insert position = .ofPoints (mesh.positions.push position).toList
  rw [bounded, Array.toList_push, Box.ofPoints, Box.ofPoints, List.foldl_concat]

/-- **One addition keeps the box of a mesh the smallest around its vertices.** -/
theorem Bounded.perform {mesh : Mesh S} (bounded : mesh.Bounded) (edit : Edit S) :
    (edit.perform mesh).Bounded := by
  cases edit with
  | vertex position normal => exact Bounded.pushVertex bounded position normal
  | vertexWithUvw position normal uvw => exact Bounded.pushVertex bounded position normal
  | face corners => exact bounded

/-- **The box of a mesh stays the smallest around its vertices.** -/
theorem Bounded.extend {mesh : Mesh S} (bounded : mesh.Bounded) (edits : List (Edit S)) :
    (mesh.extend edits).Bounded := by
  induction edits generalizing mesh with
  | nil => exact bounded
  | cons edit rest ih => exact ih (bounded.perform edit)

/-- A mesh that additions to some parts lead to. The empty mesh has no parts. -/
inductive Built : Mesh S → Prop
  | extend (positions normals : Array (Vec3 S)) (faces : Array Face) (edits : List (Edit S)) :
      Built ((ofParts positions normals faces).extend edits)

theorem Built.bounded {mesh : Mesh S} (built : mesh.Built) : mesh.Bounded := by
  obtain ⟨positions, normals, faces, edits⟩ := built
  exact (bounded_ofParts positions normals faces).extend edits

end Mesh

end RayTracer
