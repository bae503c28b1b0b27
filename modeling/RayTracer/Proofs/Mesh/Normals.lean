import RayTracer.Proofs.Mesh.Editing
import RayTracer.Proofs.Shape.FlatNormal

/-!
# Vertex normals of meshes that are put together

Every new vertex brings a normal, and nothing else does. So the numbers of vertices and
of normals grow together (`Mesh.size_extend`), and the normals of the new vertices follow
those of the parts in the order of the additions (`Mesh.normals_extend`).

The queries tell from the two numbers whether a mesh has vertex normals. When the parts
have a normal for every vertex, every mesh that additions lead to has one as well, at the
index of its vertex, and its triangles are smooth (`Mesh.Smooth`). When the parts have
vertices without normals, one new vertex is enough for a mesh that has some normals but
not all: the numbers never agree again, and its triangles stay flat (`Mesh.Faceted`)
whatever normals the new vertices bring (`Mesh.allOrNothing_extend`).
-/

set_option autoImplicit false

namespace RayTracer

variable {S : Type}

namespace Mesh

/-- A mesh has a normal for every vertex, or none at all. -/
def AllOrNothing (mesh : Mesh S) : Prop :=
  mesh.normals.size = 0 ∨ mesh.normals.size = mesh.positions.size

/-- The normal that an addition brings. -/
def Edit.normal? : Edit S → Option (Vec3 S)
  | .vertex _ normal | .vertexWithUvw _ normal _ => some normal
  | .face _ => none

/-- The normals that additions bring, in the order of the additions. -/
def givenNormals (edits : List (Edit S)) : List (Vec3 S) := edits.filterMap Edit.normal?

theorem givenNormals_cons (edit : Edit S) (edits : List (Edit S)) :
    givenNormals (edit :: edits) = edit.normal?.toList ++ givenNormals edits := by
  cases edit <;> rfl

variable [Scalar S]

/-! ## Growth of the two lists -/

theorem normals_perform (edit : Edit S) (mesh : Mesh S) :
    (edit.perform mesh).normals.toList = mesh.normals.toList ++ edit.normal?.toList := by
  cases edit with
  | vertex position normal => exact Array.toList_push
  | vertexWithUvw position normal uvw => exact Array.toList_push
  | face corners => exact (List.append_nil _).symm

theorem size_perform (edit : Edit S) (mesh : Mesh S) :
    (edit.perform mesh).positions.size = mesh.positions.size + edit.normal?.toList.length := by
  cases edit with
  | vertex position normal => exact Array.size_push position
  | vertexWithUvw position normal uvw => exact Array.size_push position
  | face corners => rfl

/-- **The normals of new vertices follow those of the parts.** -/
theorem normals_extend (mesh : Mesh S) (edits : List (Edit S)) :
    (mesh.extend edits).normals.toList = mesh.normals.toList ++ givenNormals edits :=
  toList_extend (fun mesh => mesh.normals.toList) Edit.normal? normals_perform mesh edits

/-- **There are as many new vertices as there are normals given to them.** -/
theorem size_extend (mesh : Mesh S) (edits : List (Edit S)) :
    (mesh.extend edits).positions.size = mesh.positions.size + (givenNormals edits).length := by
  induction edits generalizing mesh with
  | nil => rfl
  | cons edit rest ih =>
    refine (ih (edit.perform mesh)).trans ?_
    rw [size_perform, givenNormals_cons, List.length_append, Nat.add_assoc]

theorem size_normals_extend (mesh : Mesh S) (edits : List (Edit S)) :
    (mesh.extend edits).normals.size = mesh.normals.size + (givenNormals edits).length := by
  rw [← Array.length_toList, normals_extend, List.length_append, Array.length_toList]

/-- Additions keep the difference between the numbers of vertices and of normals. -/
theorem aligned_extend_iff {mesh : Mesh S} {edits : List (Edit S)} :
    (mesh.extend edits).normals.size = (mesh.extend edits).positions.size ↔
      mesh.normals.size = mesh.positions.size := by
  rw [size_normals_extend, size_extend]
  exact Nat.add_right_cancel_iff

/-- A vertex keeps the normal it has. -/
theorem getElem?_normals_extend {mesh : Mesh S} {index : Nat} (present : index < mesh.normals.size)
    (edits : List (Edit S)) : (mesh.extend edits).normals[index]? = mesh.normals[index]? := by
  rw [← Array.getElem?_toList, normals_extend, List.getElem?_append_left present,
    Array.getElem?_toList]

/-- The normal of a new vertex is as far from the normals of the parts as the vertex is
from the vertices of the parts. -/
theorem getElem?_normals_of_normal? (mesh : Mesh S) (before : List (Edit S)) {edit : Edit S}
    {normal : Vec3 S} (given : edit.normal? = some normal) (after : List (Edit S)) :
    (mesh.extend (before ++ edit :: after)).normals[
      mesh.normals.size + (givenNormals before).length]? = some normal := by
  have order : givenNormals (before ++ edit :: after) =
      givenNormals before ++ normal :: givenNormals after := by
    rw [givenNormals, List.filterMap_append, List.filterMap_cons_some given]
    rfl
  rw [← Array.getElem?_toList, normals_extend, order, ← Array.length_toList,
    List.getElem?_append_right (Nat.le_add_right _ _), Nat.add_sub_cancel_left,
    List.getElem?_append_right le_rfl, Nat.sub_self, List.getElem?_cons_zero]

/-! ## Normals of hits -/

/-- The hits on the triangles of a mesh have normals between those of their vertices. -/
def Smooth (mesh : Mesh S) : Prop :=
  ∀ (triangle : Nat) (face : Face), mesh.faces[triangle]? = some face →
    (∀ index ∈ face.toList, index < mesh.positions.size) →
      ∃ corners, gather mesh.normals face = .ok corners ∧ ∀ hit : TriangleHit S, ∃ uvw,
        mesh.surfaceHit triangle hit =
          .ok ⟨hit.lambda, (corners.interpolate hit.weights).unit, uvw⟩

/-- The hits on the triangles of a mesh have normals across the triangles. -/
def Faceted (mesh : Mesh S) : Prop :=
  ∀ (triangle : Nat) (face : Face), mesh.faces[triangle]? = some face →
    (∀ index ∈ face.toList, index < mesh.positions.size) →
      ∃ corners, gather mesh.positions face = .ok corners ∧ ∀ hit : TriangleHit S, ∃ uvw,
        mesh.surfaceHit triangle hit = .ok ⟨hit.lambda, corners.areaVector.unit, uvw⟩

variable {mesh : Mesh S}

theorem smooth_of_aligned (aligned : mesh.normals.size = mesh.positions.size) : mesh.Smooth := by
  intro triangle face present inRange
  obtain ⟨corners, gathered⟩ := exists_gather fun index isCorner =>
    aligned.symm ▸ inRange index isCorner
  exact ⟨corners, gathered, fun hit => exists_surfaceHit_of_normalAt present inRange
    (normalAt_of_aligned aligned present gathered hit.weights)⟩

theorem faceted_of_misaligned (misaligned : mesh.normals.size ≠ mesh.positions.size) :
    mesh.Faceted := by
  intro triangle face present inRange
  obtain ⟨corners, gathered⟩ := exists_gather inRange
  have hasCorners : mesh.corners triangle = .ok corners :=
    corners_eq_ok_iff.mpr ⟨face, present, gathered⟩
  exact ⟨corners, gathered, fun hit => exists_surfaceHit_of_normalAt present inRange
    (normalAt_of_misaligned misaligned hasCorners hit.weights)⟩

/-! ## Parts with and without normals -/

/-- **Vertex normals are all or nothing exactly for parts that have them all, and for
parts without normals to which no vertex is added.**

From parts with a normal for every vertex, additions lead to a mesh with a normal for
every vertex. The vertices of the parts keep theirs, a new vertex has the normal it was
given, and the hits on the triangles use them. From all other parts, additions lead to a
mesh whose hits use no vertex normal at all. -/
theorem allOrNothing_extend (positions normals : Array (Vec3 S)) (faces : Array Face)
    (edits : List (Edit S)) :
    let parts := ofParts positions normals faces
    let mesh := parts.extend edits
    (mesh.AllOrNothing ↔
        normals.size = positions.size ∨ normals.size = 0 ∧ givenNormals edits = []) ∧
      (normals.size = positions.size →
        mesh.normals.size = mesh.positions.size ∧
        (∀ index < normals.size, mesh.normals[index]? = normals[index]?) ∧
        (∀ before edit after normal, edits = before ++ edit :: after →
          edit.normal? = some normal →
            mesh.normals[(parts.extend before).nextVertex]? = some normal) ∧
        mesh.Smooth) ∧
      (normals.size ≠ positions.size → mesh.Faceted) := by
  intro parts mesh
  have sameDifference : mesh.normals.size = mesh.positions.size ↔ normals.size = positions.size :=
    aligned_extend_iff
  refine ⟨?_, fun aligned => ?_, fun misaligned => ?_⟩
  · have noNormals : mesh.normals.size = 0 ↔ normals.size = 0 ∧ givenNormals edits = [] := by
      rw [size_normals_extend, Nat.add_eq_zero_iff, List.length_eq_zero_iff]
      rfl
    rw [AllOrNothing, noNormals, sameDifference, or_comm]
  · refine ⟨sameDifference.mpr aligned, fun index present => getElem?_normals_extend present edits,
      ?_, smooth_of_aligned (sameDifference.mpr aligned)⟩
    rintro before edit after normal rfl given
    have sameIndex : (parts.extend before).nextVertex =
        parts.normals.size + (givenNormals before).length := by
      rw [nextVertex, size_extend]
      exact congrArg (· + (givenNormals before).length) aligned.symm
    rw [sameIndex]
    exact getElem?_normals_of_normal? parts before given after
  · exact faceted_of_misaligned (mt sameDifference.mp misaligned)

/-- The mesh without vertices has no parts, and so a normal for every one of its vertices. -/
example : (empty : Mesh S) = ofParts #[] #[] #[] := rfl

/-- Two vertices with the directions they lie in as their normals. -/
noncomputable def directedVertices : List (Edit Exact) :=
  [.vertex (.ofReal ⟨1, 0, 0⟩) (.ofReal ⟨1, 0, 0⟩), .vertex (.ofReal ⟨0, 1, 0⟩) (.ofReal ⟨0, 1, 0⟩)]

/-- A triangle of one vertex, with or without a normal, to which two vertices with normals
are added. -/
noncomputable def startedTriangle (normals : Array (Vec3 Exact)) : Mesh Exact :=
  (ofParts #[.ofReal ⟨0, 0, 0⟩] normals #[⟨0, 1, 2⟩]).extend directedVertices

/-- A hit in the second vertex of a triangle. -/
noncomputable def secondVertexHit : TriangleHit Exact := ⟨.real 1, .ofReal ⟨0, 1, 0⟩⟩

theorem interpolate_secondVertexHit (first second third : Vec3 ℝ) :
    (Corners.ofReal ⟨first, second, third⟩).interpolate secondVertexHit.weights =
      .ofReal second := by
  calc (Corners.ofReal ⟨first, second, third⟩).interpolate secondVertexHit.weights
      = .ofReal (.plus (.plus (.times 0 first) (.times 1 second)) (.times 0 third)) := rfl
    _ = .ofReal second := by simp [Vec3.plus, Vec3.times, Vec3.zipWith, Vec3.map]

/-- When the first vertex has a normal, a hit in the second vertex has the normal that was
given for that vertex. -/
theorem allOrNothing_extend_startedTriangle :
    (startedTriangle #[.ofReal ⟨0, 0, 1⟩]).AllOrNothing ∧
      ∃ uvw, (startedTriangle #[.ofReal ⟨0, 0, 1⟩]).surfaceHit 0 secondVertexHit =
        .ok ⟨.real 1, .ofReal ⟨1, 0, 0⟩, uvw⟩ := by
  obtain ⟨allOrNothing, ofAligned, -⟩ :=
    allOrNothing_extend #[.ofReal ⟨0, 0, 0⟩] #[.ofReal ⟨0, 0, 1⟩] #[⟨0, 1, 2⟩] directedVertices
  obtain ⟨-, -, -, smooth⟩ := ofAligned rfl
  obtain ⟨normals, gathered, hits⟩ := smooth 0 ⟨0, 1, 2⟩ rfl (by decide)
  obtain rfl : Corners.ofReal ⟨⟨0, 0, 1⟩, ⟨1, 0, 0⟩, ⟨0, 1, 0⟩⟩ = normals :=
    Except.ok.inj gathered
  obtain ⟨uvw, isHit⟩ := hits secondVertexHit
  rw [interpolate_secondVertexHit, Vec3.unit_ofReal (by norm_num [Vec3.inner])] at isHit
  exact ⟨allOrNothing.mpr (.inl rfl), uvw, isHit⟩

/-- When the first vertex has no normal, the normal given for the third vertex stands at
the index of the second, and a hit in the second vertex has the normal of the triangle. -/
theorem startedTriangle_withoutNormal :
    ¬(startedTriangle #[]).AllOrNothing ∧
      (startedTriangle #[]).normals[1]? = some (.ofReal ⟨0, 1, 0⟩) ∧
      (startedTriangle #[]).surfaceHit 0 secondVertexHit = .ok ⟨.real 1, .ofReal ⟨0, 0, 1⟩, 0⟩ := by
  refine ⟨?_, rfl, ?_⟩
  · rintro (none | all)
    · cases none
    · cases all
  · have hasCorners : (startedTriangle #[]).corners 0 =
        .ok (.ofReal ⟨⟨0, 0, 0⟩, ⟨1, 0, 0⟩, ⟨0, 1, 0⟩⟩) := rfl
    have isAcross : Corners.across ⟨⟨0, 0, 0⟩, ⟨1, 0, 0⟩, ⟨0, 1, 0⟩⟩ = ⟨0, 0, 1⟩ := by
      norm_num [Corners.across, Vec3.outer, Vec3.minus, Vec3.zipWith]
    have hasNormal : (startedTriangle #[]).normalAt 0 secondVertexHit.weights =
        .ok (.ofReal ⟨0, 0, 1⟩) := by
      rw [normalAt_of_misaligned (by decide) hasCorners, Corners.areaVector_ofReal, isAcross,
        Vec3.unit_ofReal (by norm_num [Vec3.inner])]
    rw [surfaceHit, hasNormal]
    rfl

end Mesh

end RayTracer
