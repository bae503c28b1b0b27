import RayTracer.Mesh
import RayTracer.Proofs.Triangle.Crossing

/-!
# Triangles of a mesh

A query of a mesh faults exactly when it reads a vertex that is not there. The
triangles of an indexed mesh, whose vertex indices are all in range, have
corners (`Mesh.Indexed.exists_corners`), so no query of such a mesh faults.

When the vertices are finite, a hit of a finite ray on a triangle is a point of
the ray between its origin and the bound that is a weighted sum of the vertices
of the face (`Mesh.crosses_of_meet`).
-/

set_option autoImplicit false

namespace RayTracer

namespace Mesh

theorem gather_eq_ok_iff {α : Type} {values : Array α} {face : Face} {corners : Corners α} :
    gather values face = .ok corners ↔
      values[face.a]? = some corners.a ∧ values[face.b]? = some corners.b ∧
        values[face.c]? = some corners.c := by
  simp only [← fetch_eq_ok_iff]
  unfold gather
  cases fetch values face.a <;> cases fetch values face.b <;> cases fetch values face.c <;>
    simp [bind, Except.bind, pure, Except.pure, Corners.ext_iff]

theorem gather_map {α β : Type} (function : α → β) {values : Array α} {face : Face}
    {corners : Corners α} (gathered : gather values face = .ok corners) :
    gather (values.map function) face = .ok (corners.map function) := by
  obtain ⟨isA, isB, isC⟩ := gather_eq_ok_iff.mp gathered
  refine gather_eq_ok_iff.mpr ⟨?_, ?_, ?_⟩ <;> simp [Corners.map, *]

theorem exists_gather {α : Type} {values : Array α} {face : Face}
    (inRange : ∀ index ∈ face.toList, index < values.size) :
    ∃ corners, gather values face = .ok corners := by
  have present (index : Nat) (isCorner : index ∈ face.toList) :
      ∃ value, values[index]? = some value :=
    ⟨_, Array.getElem?_eq_getElem (inRange index isCorner)⟩
  obtain ⟨a, isA⟩ := present face.a (by simp [Corners.toList])
  obtain ⟨b, isB⟩ := present face.b (by simp [Corners.toList])
  obtain ⟨c, isC⟩ := present face.c (by simp [Corners.toList])
  exact ⟨⟨a, b, c⟩, gather_eq_ok_iff.mpr ⟨isA, isB, isC⟩⟩

section Queries

variable {S : Type} {mesh : Mesh S} {triangle : Nat}

/-- All vertex indices of a mesh are in range. -/
def Indexed (mesh : Mesh S) : Prop :=
  ∀ face ∈ mesh.faces, ∀ index ∈ face.toList, index < mesh.positions.size

theorem corners_eq_ok_iff {corners : Corners (Vec3 S)} :
    mesh.corners triangle = .ok corners ↔
      ∃ face, mesh.faces[triangle]? = some face ∧ gather mesh.positions face = .ok corners := by
  simp only [← fetch_eq_ok_iff]
  unfold Mesh.corners
  cases fetch mesh.faces triangle <;> simp [bind, Except.bind]

/-- The corners of a face of an indexed mesh can be read from every list that
has a value for every vertex. -/
theorem Indexed.exists_gather {α : Type} {values : Array α} (indexed : mesh.Indexed)
    (inRange : triangle < mesh.faces.size) (sameSize : values.size = mesh.positions.size) :
    ∃ face corners, fetch mesh.faces triangle = .ok face ∧ gather values face = .ok corners := by
  obtain ⟨face, fetched⟩ := exists_fetch inRange
  have member : face ∈ mesh.faces := Array.mem_of_getElem? (fetch_eq_ok_iff.mp fetched)
  have gathered : ∃ corners, gather values face = .ok corners :=
    Mesh.exists_gather fun index isCorner => sameSize ▸ indexed face member index isCorner
  exact ⟨face, gathered.choose, fetched, gathered.choose_spec⟩

theorem Indexed.exists_corners (indexed : mesh.Indexed) (inRange : triangle < mesh.faces.size) :
    ∃ corners, mesh.corners triangle = .ok corners := by
  obtain ⟨face, corners, fetched, gathered⟩ := indexed.exists_gather inRange rfl
  exact ⟨corners, corners_eq_ok_iff.mpr ⟨face, fetch_eq_ok_iff.mp fetched, gathered⟩⟩

theorem lt_of_corners {corners : Corners (Vec3 S)}
    (hasCorners : mesh.corners triangle = .ok corners) : triangle < mesh.faces.size := by
  obtain ⟨face, present, -⟩ := corners_eq_ok_iff.mp hasCorners
  exact (Array.getElem?_eq_some_iff.mp present).1

variable [Scalar S]

theorem meet_of_corners {corners : Corners (Vec3 S)}
    (hasCorners : mesh.corners triangle = .ok corners) (ray : Ray S) (bound : S) :
    mesh.meet triangle ray bound = .ok (corners.meet ray bound) := by
  rw [Mesh.meet, hasCorners]
  rfl

theorem exists_corners_of_meet {ray : Ray S} {bound : S} {result : Option (TriangleHit S)}
    (met : mesh.meet triangle ray bound = .ok result) :
    ∃ corners, mesh.corners triangle = .ok corners ∧ corners.meet ray bound = result := by
  obtain ⟨corners, hasCorners, met⟩ := exists_of_bind_eq_ok met
  exact ⟨corners, hasCorners, Except.ok.inj met⟩

/-- No query of an indexed mesh for a triangle faults. -/
theorem Indexed.exists_meet (indexed : mesh.Indexed) (inRange : triangle < mesh.faces.size)
    (ray : Ray S) (bound : S) : ∃ result, mesh.meet triangle ray bound = .ok result := by
  obtain ⟨corners, hasCorners⟩ := indexed.exists_corners inRange
  exact ⟨_, meet_of_corners hasCorners ray bound⟩

/-! ### Surface hits -/

/-- With a normal for every vertex, the normal of a triangle is interpolated. -/
theorem normalAt_of_aligned (aligned : mesh.normals.size = mesh.positions.size) {face : Face}
    (present : mesh.faces[triangle]? = some face) {normals : Corners (Vec3 S)}
    (gathered : gather mesh.normals face = .ok normals) (weights : Vec3 S) :
    mesh.normalAt triangle weights = .ok (normals.interpolate weights).unit := by
  rw [normalAt, if_pos aligned, fetch_eq_ok_iff.mpr present]
  simp only [gathered, bind, Except.bind, pure, Except.pure]

/-- With another number of normals, the normal of a triangle is the direction of its area
vector. -/
theorem normalAt_of_misaligned (misaligned : mesh.normals.size ≠ mesh.positions.size)
    {corners : Corners (Vec3 S)} (hasCorners : mesh.corners triangle = .ok corners)
    (weights : Vec3 S) : mesh.normalAt triangle weights = .ok corners.areaVector.unit := by
  rw [normalAt, if_neg misaligned, hasCorners]
  rfl

theorem exists_uvwAt {face : Face} (present : mesh.faces[triangle]? = some face)
    (inRange : ∀ index ∈ face.toList, index < mesh.positions.size) (weights : Vec3 S) :
    ∃ uvw, mesh.uvwAt triangle weights = .ok uvw := by
  unfold uvwAt
  split
  · rename_i aligned
    obtain ⟨uvws, gathered⟩ := Mesh.exists_gather fun index isCorner =>
      aligned.symm ▸ inRange index isCorner
    refine ⟨uvws.interpolate weights, ?_⟩
    simp only [fetch_eq_ok_iff.mpr present, gathered, bind, Except.bind, pure, Except.pure]
  · exact ⟨0, rfl⟩

theorem exists_surfaceHit_of_normalAt {face : Face} (present : mesh.faces[triangle]? = some face)
    (inRange : ∀ index ∈ face.toList, index < mesh.positions.size) {hit : TriangleHit S}
    {normal : Vec3 S} (isNormal : mesh.normalAt triangle hit.weights = .ok normal) :
    ∃ uvw, mesh.surfaceHit triangle hit = .ok ⟨hit.lambda, normal, uvw⟩ := by
  obtain ⟨uvw, isUvw⟩ := exists_uvwAt present inRange hit.weights
  refine ⟨uvw, ?_⟩
  rw [surfaceHit, isNormal, isUvw]
  rfl

end Queries

/-! ## Finite meshes -/

variable {mesh : Mesh Exact}

/-- The vertices of a face have given real components. -/
structure RealCorners (positions : Array (Vec3 Exact)) (face : Face) (corners : Corners (Vec3 ℝ)) :
    Prop where
  a : positions[face.a]? = some (.ofReal corners.a)
  b : positions[face.b]? = some (.ofReal corners.b)
  c : positions[face.c]? = some (.ofReal corners.c)

/-- The corners of a triangle of finite vertices are vertices of its face. -/
theorem exists_realCorners (finite : FiniteVertices mesh.positions) {triangle : Nat}
    {corners : Corners (Vec3 Exact)} (hasCorners : mesh.corners triangle = .ok corners) :
    ∃ face, mesh.faces[triangle]? = some face ∧ ∃ numbers : Corners (Vec3 ℝ),
      corners = .ofReal numbers ∧ RealCorners mesh.positions face numbers := by
  obtain ⟨face, present, gathered⟩ := corners_eq_ok_iff.mp hasCorners
  obtain ⟨isA, isB, isC⟩ := gather_eq_ok_iff.mp gathered
  obtain ⟨a, sameA⟩ := finite corners.a (Array.mem_of_getElem? isA)
  obtain ⟨b, sameB⟩ := finite corners.b (Array.mem_of_getElem? isB)
  obtain ⟨c, sameC⟩ := finite corners.c (Array.mem_of_getElem? isC)
  exact ⟨face, present, ⟨a, b, c⟩, Corners.ext sameA sameB sameC, sameA ▸ isA, sameB ▸ isB,
    sameC ▸ isC⟩

/-- A hit on a triangle of finite vertices is a point of the ray and the triangle. -/
theorem crosses_of_meet (finite : FiniteVertices mesh.positions) {triangle : Nat} {ray : Ray ℝ}
    {bound : Exact} {hit : TriangleHit Exact}
    (met : mesh.meet triangle (.ofReal ray) bound = .ok (some hit)) :
    ∃ face, mesh.faces[triangle]? = some face ∧ ∃ (corners : Corners (Vec3 ℝ))
      (lambda second third : ℝ), RealCorners mesh.positions face corners ∧
        corners.Crosses ray lambda second third ∧ hit.lambda = .real lambda ∧ 0 < lambda ∧
        .real lambda < bound := by
  obtain ⟨corners, hasCorners, found⟩ := exists_corners_of_meet met
  obtain ⟨face, present, numbers, rfl, vertices⟩ := exists_realCorners finite hasCorners
  obtain ⟨lambda, second, third, rfl, positive, below, crosses⟩ := Corners.crosses_of_meet found
  exact ⟨face, present, numbers, lambda, second, third, vertices, crosses, rfl, positive, below⟩

end Mesh

end RayTracer
