import RayTracer.Proofs.Ingest.Faults
import RayTracer.Proofs.Matrix
import RayTracer.Proofs.Shape.FlatNormal

/-!
# Normals of transformed meshes

A mesh from outside is moved into the world by a matrix that may stretch and shear it. When
the matrix is affine and has an inverse, a vertex normal that was perpendicular to the edges
of a triangle is perpendicular to the edges of the transformed triangle
(`MeshInput.perpendicular_of_ingest`): the inner products of the transformed normal with
transformed edges are those from before, and making the normal one long only multiplies them.
-/

set_option autoImplicit false

namespace RayTracer

open Exact

/-! ## Normals and edges -/

namespace Matrix4

variable {linear : Matrix3 ℝ} (regular : linear.volume ≠ 0) (offset : Vec3 ℝ)
include regular

/-- A transformed normal has the same inner products with transformed edges. -/
theorem dot_transformPoint_sub (first second normal : Vec3 ℝ) :
    ((affine linear offset).normalMatrix.apply (.ofReal normal)).dot
        ((affine linear offset).transformPoint (.ofReal first) -
          (affine linear offset).transformPoint (.ofReal second)) =
      (Vec3.ofReal normal).dot (.ofReal first - .ofReal second) := by
  rw [normalMatrix_affine regular, Matrix3.apply_ofReal, transformPoint_sub_affine,
    Vec3.dot_ofReal, Matrix3.inner_dual_image regular, Vec3.ofReal_sub_ofReal, Vec3.dot_ofReal]

/-- A normal that is perpendicular to the edges of a triangle stays so, also when it is made
one long. -/
theorem perpendicular_transform {corners : Corners (Vec3 ℝ)} {normal : Vec3 ℝ}
    (perpendicular : (Corners.ofReal corners).Perpendicular (.ofReal normal)) :
    ((Corners.ofReal corners).map (affine linear offset).transformPoint).Perpendicular
      ((affine linear offset).normalMatrix.apply (.ofReal normal)).unit := by
  have kept {first second : Vec3 ℝ}
      (level : (Vec3.ofReal normal).dot (.ofReal second - .ofReal first) = 0) :
      ((affine linear offset).normalMatrix.apply (.ofReal normal)).unit.dot
        ((affine linear offset).transformPoint (.ofReal second) -
          (affine linear offset).transformPoint (.ofReal first)) = 0 := by
    rw [← dot_transformPoint_sub regular offset] at level
    rw [transformPoint_sub_affine, normalMatrix_affine regular, Matrix3.apply_ofReal] at level ⊢
    exact Vec3.dot_unit_eq_zero level
  exact ⟨kept perpendicular.first, kept perpendicular.second, kept perpendicular.third⟩

end Matrix4

/-! ## Meshes from outside -/

namespace MeshInput

section Ingested

variable {input : MeshInput Exact} {accelerated : AcceleratedMesh Exact}
  {positions normals : AttributeBuffer Exact} (complete : input.Complete positions normals)
  (ingested : input.ingest = .ok accelerated)
include complete ingested

/-- The corners of a face in the world are the transformed corners. -/
theorem exists_corners_of_ingest {triangle : Nat} {face : Face}
    (present : accelerated.mesh.faces[triangle]? = some face) :
    ∃ corners, Mesh.gather positions.vectors.toArray face = .ok corners ∧
      accelerated.mesh.corners triangle = .ok (corners.map input.toWorld.transformPoint) := by
  obtain ⟨others, otherNormals, otherComplete, inRange, rfl⟩ := ingest_eq_ok_iff.mp ingested
  obtain rfl := Option.some.inj (otherComplete.positions_eq.symm.trans complete.positions_eq)
  have member : face ∈ input.faces := List.mem_toArray.mp (Array.mem_of_getElem? present)
  have enough : ∀ index ∈ face.toList, index < others.vectors.toArray.size := by
    rw [List.size_toArray, complete.length_vectors.1]
    exact inRange face member
  obtain ⟨corners, gathered⟩ := Mesh.exists_gather enough
  have moved := Mesh.gather_map input.toWorld.transformPoint gathered
  rw [List.map_toArray] at moved
  exact ⟨corners, gathered, Mesh.corners_eq_ok_iff.mpr ⟨face, present, moved⟩⟩

/-- The normal of a vertex in the world is the transformed normal, made one long. -/
theorem getElem?_normals_of_ingest {vertex : Nat} {normal : Vec3 Exact}
    (present : normals.vectors[vertex]? = some normal) :
    accelerated.mesh.normals[vertex]? = some (input.toWorld.normalMatrix.apply normal).unit := by
  obtain ⟨others, otherNormals, otherComplete, -, rfl⟩ := ingest_eq_ok_iff.mp ingested
  obtain rfl := Option.some.inj (otherComplete.normals_eq.symm.trans complete.normals_eq)
  refine (otherComplete.assembles.normal vertex).trans ?_
  rw [← AttributeBuffer.getElem?_vectors, present, Option.map_some]

end Ingested

/-- **Affine transformations keep normals perpendicular to surfaces.** The inner product of a
transformed normal and a transformed edge is that from before. So in a mesh from outside, a
vertex normal that is perpendicular to the edges of a triangle becomes one that is
perpendicular to the edges of the triangle in the world. -/
theorem perpendicular_of_ingest {matrix : Matrix4 Exact} (isAffine : matrix.IsAffine)
    (regular : matrix.linearPart.determinant ≠ 0) :
    (∀ first second normal : Vec3 Exact, first.IsFinite → second.IsFinite → normal.IsFinite →
      (matrix.normalMatrix.apply normal).dot
          (matrix.transformPoint first - matrix.transformPoint second) =
        normal.dot (first - second)) ∧
    ∀ (input : MeshInput Exact) (accelerated : AcceleratedMesh Exact), input.toWorld = matrix →
      input.ingest = .ok accelerated →
        ∃ positions normals, input.Complete positions normals ∧
          ∀ triangle face, accelerated.mesh.faces[triangle]? = some face →
            ∃ corners worldCorners, Mesh.gather positions.vectors.toArray face = .ok corners ∧
              accelerated.mesh.corners triangle = .ok worldCorners ∧
              ∀ (vertex : Nat) (normal : Vec3 Exact), normals.vectors[vertex]? = some normal →
                ∃ worldNormal, accelerated.mesh.normals[vertex]? = some worldNormal ∧
                  (corners.IsFinite → normal.IsFinite → corners.Perpendicular normal →
                    worldCorners.Perpendicular worldNormal) := by
  obtain ⟨linear, offset, rfl⟩ := isAffine.eq_affine
  have regular : linear.volume ≠ 0 := by
    intro zero
    refine regular ((Matrix3.determinant_ofReal linear).trans ?_)
    rw [zero, zero_eq_real]
  refine ⟨?_, fun input accelerated isMatrix ingested => ?_⟩
  · rintro _ _ _ ⟨first, rfl⟩ ⟨second, rfl⟩ ⟨normal, rfl⟩
    exact Matrix4.dot_transformPoint_sub regular offset first second normal
  · obtain ⟨positions, normals, complete, -⟩ := ingest_eq_ok_iff.mp ingested
    refine ⟨positions, normals, complete, fun triangle face present => ?_⟩
    obtain ⟨corners, gathered, inWorld⟩ := exists_corners_of_ingest complete ingested present
    refine ⟨corners, _, gathered, inWorld, fun vertex normal isNormal =>
      ⟨_, getElem?_normals_of_ingest complete ingested isNormal, fun finite => ?_⟩⟩
    obtain ⟨numbers, rfl⟩ := finite.eq_ofReal
    rintro ⟨normal, rfl⟩ perpendicular
    rw [isMatrix]
    exact Matrix4.perpendicular_transform regular offset perpendicular

/-- A triangle across the three axes that is sheared and shifted. -/
noncomputable def slanted : MeshInput Exact where
  positions := some (.ofVectors [.ofReal ⟨1, 0, 0⟩, .ofReal ⟨0, 1, 0⟩, .ofReal ⟨0, 0, 1⟩])
  normals := some (.ofVectors (List.replicate 3 (.ofReal ⟨1, 1, 1⟩)))
  toWorld := .affine ⟨⟨1, 0, 0⟩, ⟨1, 1, 0⟩, ⟨0, 1, 1⟩⟩ ⟨0, 0, 1⟩
  indexBuffers := [.ofTriangles [0, 1, 2]]

theorem perpendicular_of_ingest_slanted :
    ∃ accelerated, slanted.ingest = .ok accelerated ∧
      ∃ corners normal, accelerated.mesh.corners 0 = .ok corners ∧
        accelerated.mesh.normals[0]? = some normal ∧ corners.Perpendicular normal := by
  have ingested := ingest_eq_ok_iff.mpr
    ⟨_, _, (⟨rfl, rfl, rfl, rfl, rfl⟩ : slanted.Complete _ _), by decide, rfl⟩
  have isAffine : slanted.toWorld.IsAffine := Matrix4.isAffine_affine _ _
  have regular : slanted.toWorld.linearPart.determinant ≠ 0 := by
    intro zero
    have zero := ((Matrix3.determinant_ofReal _).symm.trans zero).trans zero_eq_real
    rw [Exact.real.injEq] at zero
    norm_num [Matrix3.volume, Vec3.inner, Vec3.outer] at zero
  obtain ⟨positions, normals, complete, kept⟩ :=
    (perpendicular_of_ingest isAffine regular).2 slanted _ rfl ingested
  obtain rfl := Option.some.inj complete.positions_eq
  obtain rfl := Option.some.inj complete.normals_eq
  obtain ⟨corners, worldCorners, gathered, inWorld, kept⟩ := kept 0 ⟨0, 1, 2⟩ rfl
  obtain rfl : Corners.ofReal ⟨⟨1, 0, 0⟩, ⟨0, 1, 0⟩, ⟨0, 0, 1⟩⟩ = corners :=
    Except.ok.inj gathered
  obtain ⟨worldNormal, isNormal, kept⟩ := kept 0 _ rfl
  refine ⟨_, ingested, worldCorners, worldNormal, inWorld, isNormal, ?_⟩
  refine kept ⟨⟨_, rfl⟩, ⟨_, rfl⟩, ⟨_, rfl⟩⟩ ⟨⟨1, 1, 1⟩, rfl⟩ ?_
  refine Corners.perpendicular_ofReal_iff.mpr ⟨?_, ?_, ?_⟩ <;>
    norm_num [Vec3.inner, Vec3.minus, Vec3.zipWith]

end MeshInput

end RayTracer
