import RayTracer.Proofs.Bvh.Traversal
import RayTracer.Proofs.Mesh.Triangles

/-!
# When the candidates contain the triangles that are hit

A ray that hits a triangle is in the box of the leaf of that triangle at the
parameter of the hit. But the slab test takes a direction component below the
tolerance for zero and looks at the origin of the ray instead. So a triangle that
is hit is a candidate exactly when the origin lies between the planes of the
leaf's box across all axes with such a component (`Box.Admits`).

The margin around a triangle makes up for the difference when the ray drifts by
no more than the margin on its way to the hit; it always does when every
component is zero or not below the tolerance. Far away a smaller component is
enough to miss a triangle that is hit (`distantTriangle`).
-/

set_option autoImplicit false

namespace RayTracer

open Exact

namespace Box

/-- The origin of a ray lies between the planes of a box across every axis
along which the direction counts as zero. -/
def Admits (box : Box Exact) (ray : Ray Exact) : Prop :=
  ∀ axis : Axis, Scalar.abs (ray.direction.get axis) < epsilon →
    box.lower.get axis ≤ ray.origin.get axis ∧ ray.origin.get axis ≤ box.upper.get axis

theorem admits_ofReal_iff {box : Box Exact} {ray : Ray ℝ} :
    box.Admits (.ofReal ray) ↔ ∀ axis : Axis, |ray.direction.get axis| < 1e-9 →
      box.lower.get axis ≤ real (ray.origin.get axis) ∧
        real (ray.origin.get axis) ≤ box.upper.get axis := by
  simp only [Admits, Ray.ofReal, Vec3.get_ofReal, abs_real, epsilon_eq_real, real_lt_real]

/-- When a ray is in a box at an admissible parameter, it meets the box exactly
when the box admits it. -/
theorem meets_iff_admits {box : Box Exact} (sound : box.Sound) {ray : Ray ℝ} {bound : Exact}
    {lambda : ℝ} (positive : 0 < lambda) (below : real lambda < bound)
    (around : box.Around (ray.follow lambda)) :
    box.meets (.ofReal ray) bound = true ↔ box.Admits (.ofReal ray) := by
  obtain ⟨⟨lower, upper⟩, -, rfl⟩ := sound.finite_of_within around
  rw [meets_iff, admits_ofReal_iff]
  simp only [Vec3.get_ofReal, real_le_real]
  constructor
  · rintro ⟨⟨after, -, passes⟩, -⟩ axis small
    simpa only [InSlab, flushed_of_lt small, mul_zero, add_zero] using passes axis
  · intro admits
    have passes : Passes lower upper ray lambda := by
      intro axis
      by_cases small : |ray.direction.get axis| < 1e-9
      · simpa only [InSlab, flushed_of_lt small, mul_zero, add_zero] using admits axis small
      · rw [InSlab, flushed_of_not_lt small, ← ray.get_follow]
        exact around_finite_iff.mp around axis
    exact ⟨⟨lambda, positive, passes⟩, lambda, below, passes⟩

end Box

namespace Bvh

section Hits

variable {mesh : Mesh Exact} (finite : FiniteVertices mesh.positions)
include finite

/-- The padded box of a face is around the points within its margin of a crossing. -/
theorem around_faceBox {face : Face} {corners : Corners (Vec3 ℝ)}
    (vertices : Mesh.RealCorners mesh.positions face corners) {ray : Ray ℝ}
    {lambda second third : ℝ} (crosses : corners.Crosses ray lambda second third)
    {point : Vec3 ℝ}
    (close : ∀ axis : Axis, |point.get axis - (ray.follow lambda).get axis| ≤ 1e-6) :
    (faceBox mesh.positions face).Around point := by
  have finitePoints : ∀ point ∈ face.toList.filterMap fun index => mesh.positions[index]?,
      point.IsFinite := fun _ => finite_of_mem_vertices finite
  have vertex {index : Nat} {corner : Vec3 ℝ} (isIndex : index ∈ face.toList)
      (present : mesh.positions[index]? = some (.ofReal corner)) :
      (Box.ofPoints (face.toList.filterMap fun index => mesh.positions[index]?)).Around corner :=
    Box.around_ofPoints finitePoints (List.mem_filterMap.mpr ⟨index, isIndex, present⟩)
  have sound := Box.sound_ofPoints finitePoints
  have around := crosses.around sound (vertex (by simp [Corners.toList]) vertices.a)
    (vertex (by simp [Corners.toList]) vertices.b) (vertex (by simp [Corners.toList]) vertices.c)
  rw [faceBox, boxMargin_eq_real]
  exact Box.around_padded sound around close

/-- A ray that hits a triangle meets the box of its leaf exactly when the box admits it. -/
theorem Outline.OfTree.leaf_meets_iff_admits {outline : Outline Exact}
    (ofTree : outline.OfTree (build mesh.positions mesh.faces)) {leaf : Leaf Exact}
    (member : leaf ∈ outline.leaves) {triangle : Nat}
    (holds : triangle ∈ leaf.triangles (build mesh.positions mesh.faces).order) {ray : Ray ℝ}
    {bound : Exact} {hit : TriangleHit Exact}
    (met : mesh.meet triangle (.ofReal ray) bound = .ok (some hit)) :
    leaf.box.meets (.ofReal ray) bound = true ↔ leaf.box.Admits (.ofReal ray) := by
  obtain ⟨face, present, corners, lambda, second, third, vertices, crosses, -, positive, below⟩ :=
    Mesh.crosses_of_meet finite met
  have inFaceBox : (faceBox mesh.positions face).Around (ray.follow lambda) :=
    around_faceBox finite vertices crosses fun axis => by norm_num
  have sound := ((ofTree.nested finite).leaf_within member).1
  exact Box.meets_iff_admits sound positive below
    (inFaceBox.trans (ofTree.faceBox_within finite member holds present))

/-- The box of a leaf admits a ray that hits a triangle of the leaf without
drifting by more than the margin along the axes on which it counts as level. -/
theorem Outline.OfTree.admits_of_close {outline : Outline Exact}
    (ofTree : outline.OfTree (build mesh.positions mesh.faces)) {leaf : Leaf Exact}
    (member : leaf ∈ outline.leaves) {triangle : Nat}
    (holds : triangle ∈ leaf.triangles (build mesh.positions mesh.faces).order) {ray : Ray ℝ}
    {bound : Exact} {hit : TriangleHit Exact}
    (met : mesh.meet triangle (.ofReal ray) bound = .ok (some hit))
    (close : ∀ axis : Axis, Scalar.abs ((Ray.ofReal ray).direction.get axis) < epsilon →
      Scalar.abs (hit.lambda * (Ray.ofReal ray).direction.get axis) ≤ boxMargin) :
    leaf.box.Admits (.ofReal ray) := by
  obtain ⟨face, present, corners, lambda, second, third, vertices, crosses, isLambda, -⟩ :=
    Mesh.crosses_of_meet finite met
  simp only [Ray.ofReal, Vec3.get_ofReal, isLambda, real_mul_real, abs_real, epsilon_eq_real,
    boxMargin_eq_real, real_lt_real, real_le_real] at close
  -- The slab test follows this ray instead.
  let level : Ray ℝ := ⟨ray.origin, ray.direction.map flushed⟩
  have levelAt (axis : Axis) : (level.follow lambda).get axis =
      ray.origin.get axis + lambda * flushed (ray.direction.get axis) := by
    cases axis <;> rfl
  have inFaceBox : (faceBox mesh.positions face).Around (level.follow lambda) := by
    apply around_faceBox finite vertices crosses
    intro axis
    rw [levelAt, ray.get_follow]
    by_cases small : |ray.direction.get axis| < 1e-9
    · rw [flushed_of_lt small, mul_zero, add_zero, sub_add_cancel_left, abs_neg]
      exact close axis small
    · rw [flushed_of_not_lt small, sub_self, abs_zero]
      norm_num
  have around := inFaceBox.trans (ofTree.faceBox_within finite member holds present)
  rw [Box.admits_ofReal_iff]
  intro axis small
  have between := around axis
  simp only [Box.ofPoint, Vec3.get_ofReal, levelAt, flushed_of_lt small, mul_zero,
    add_zero] at between
  exact between

end Hits

/-! ## A distant triangle -/

/-- The corners of a narrow triangle a million units away. -/
noncomputable def distantCorners : Corners (Vec3 ℝ) :=
  ⟨⟨4e-4, -1, 1e6⟩, ⟨6e-4, -1, 1e6⟩, ⟨5e-4, 1, 1e6⟩⟩

/-- The mesh of one distant triangle. -/
noncomputable def distantTriangle : Mesh Exact :=
  .ofParts (#[distantCorners.a, distantCorners.b, distantCorners.c].map .ofReal) #[] #[⟨0, 1, 2⟩]

/-- A ray that reaches the distant triangle although its direction is nearly level. -/
noncomputable def slantedRay : Ray ℝ := ⟨⟨0, 0, 0⟩, ⟨5e-10, 0, 1⟩⟩

theorem finite_distantTriangle : FiniteVertices distantTriangle.positions :=
  finiteVertices_ofReal _

theorem indexed_distantTriangle : distantTriangle.Indexed := by
  intro face member index isCorner
  obtain rfl : face = ⟨0, 1, 2⟩ := by simpa [distantTriangle, Mesh.ofParts] using member
  have small : index ≤ 2 := by
    obtain rfl | rfl | rfl := by simpa [Corners.toList] using isCorner
    all_goals decide
  simpa [distantTriangle, Mesh.ofParts] using Nat.lt_succ_of_le small

/-- The slanted ray hits the distant triangle in its middle. -/
theorem meet_distantTriangle : distantTriangle.meet 0 (.ofReal slantedRay) infinity =
    .ok (some ⟨real 1e6, ⟨real 0.25, real 0.25, real 0.5⟩⟩) := by
  have hasCorners : distantTriangle.corners 0 = .ok (.ofReal distantCorners) := by
    refine Mesh.corners_eq_ok_iff.mpr ⟨⟨0, 1, 2⟩, rfl, Mesh.gather_eq_ok_iff.mpr ?_⟩
    simp [distantTriangle, Mesh.ofParts, Corners.ofReal, Corners.map]
  have determinant : distantCorners.determinant slantedRay = -4e-4 := by
    norm_num [Corners.determinant, distantCorners, slantedRay, Vec3.minus, Vec3.zipWith, Vec3.inner,
      Vec3.outer]
  have second : distantCorners.secondWeight slantedRay = 0.25 := by
    rw [Corners.secondWeight, determinant]
    norm_num [distantCorners, slantedRay, Vec3.minus, Vec3.zipWith, Vec3.inner, Vec3.outer]
  have third : distantCorners.thirdWeight slantedRay = 0.5 := by
    rw [Corners.thirdWeight, determinant]
    norm_num [distantCorners, slantedRay, Vec3.minus, Vec3.zipWith, Vec3.inner, Vec3.outer]
  have parameter : distantCorners.parameter slantedRay = 1e6 := by
    rw [Corners.parameter, determinant]
    norm_num [distantCorners, slantedRay, Vec3.minus, Vec3.zipWith, Vec3.inner, Vec3.outer]
  have crossing : (Corners.ofReal distantCorners).crossing (.ofReal slantedRay) =
      some ⟨real 1e6, ⟨real 0.25, real 0.25, real 0.5⟩⟩ := by
    rw [Corners.crossing_ofReal, determinant, second, third, parameter]
    norm_num
  have inRange : InRange (real 1e6) infinity := by
    refine ⟨?_, trivial⟩
    rw [zero_eq_real, real_lt_real]
    norm_num
  rw [Mesh.meet_of_corners hasCorners, Corners.meet, crossing]
  exact congrArg Except.ok (if_pos (decide_eq_true inRange))

/-- The tree of the distant triangle is a single leaf. -/
theorem ofTree_distantTriangle :
    (Outline.leaf 0 ⟨faceBox distantTriangle.positions ⟨0, 1, 2⟩, 0, 1⟩).OfTree
      (build distantTriangle.positions distantTriangle.faces) := by
  let item : Item Exact := .ofFace distantTriangle.positions 0 ⟨0, 1, 2⟩
  have grown : grow (itemsOf distantTriangle.positions distantTriangle.faces) =
      .leaf (boundsOf [item]) [item] :=
    grow_of_leaf rfl
  have bounds : boundsOf [item] = faceBox distantTriangle.positions ⟨0, 1, 2⟩ :=
    (sound_faceBox finite_distantTriangle _).empty_union
  have ofTree := ofTree_outline distantTriangle.positions distantTriangle.faces
  rw [grown, bounds] at ofTree
  exact ofTree

/-- The origin of the slanted ray is beside the box of the distant triangle. -/
theorem not_admits_distantTriangle :
    ¬(faceBox distantTriangle.positions ⟨0, 1, 2⟩).Admits (.ofReal slantedRay) := by
  have points : (Corners.toList ⟨0, 1, 2⟩).filterMap
        (fun index => distantTriangle.positions[index]?) =
      [.ofReal distantCorners.a, .ofReal distantCorners.b, .ofReal distantCorners.c] := by
    simp [distantTriangle, Mesh.ofParts, Corners.toList]
  have ordered (axis : Axis) :
      (Vec3.zipWith min (Vec3.zipWith min distantCorners.a distantCorners.b)
          distantCorners.c).get axis ≤
        (Vec3.zipWith max (Vec3.zipWith max distantCorners.a distantCorners.b)
          distantCorners.c).get axis := by
    cases axis <;> norm_num [Vec3.zipWith, distantCorners, Vec3.get]
  rw [faceBox, points, Box.ofPoints_three, boxMargin_eq_real, Box.padded_finite _ ordered,
    Box.admits_ofReal_iff]
  intro admits
  have beside := (admits .x (by norm_num [slantedRay, Vec3.get])).1
  rw [Vec3.get_ofReal, real_le_real] at beside
  norm_num [Vec3.get, Vec3.map, Vec3.zipWith, distantCorners, slantedRay] at beside

/-! ## The candidates -/

/-- **A triangle that a ray hits is a candidate exactly when the box of its leaf
admits the ray.** It is one whenever the ray drifts by no more than the margin
around triangles, on its way to the hit, along the axes on which its direction
counts as zero. -/
theorem mem_candidates_iff_admits {mesh : Mesh Exact} (finite : FiniteVertices mesh.positions)
    {ray : Ray Exact} (rayFinite : ray.IsFinite) {bound : Exact} {triangle : Nat}
    {hit : TriangleHit Exact} (met : mesh.meet triangle ray bound = .ok (some hit)) :
    let tree := build mesh.positions mesh.faces
    ∃ outline : Outline Exact, outline.OfTree tree ∧ ∃ leaf ∈ outline.leaves,
      triangle ∈ leaf.triangles tree.order ∧
      ∃ found, candidates tree ray bound = .ok found ∧
        (triangle ∈ found ↔ leaf.box.Admits ray) ∧
        ((∀ axis : Axis, Scalar.abs (ray.direction.get axis) < epsilon →
            Scalar.abs (hit.lambda * ray.direction.get axis) ≤ boxMargin) →
          triangle ∈ found) := by
  intro tree
  obtain ⟨numbers, rfl⟩ := rayFinite.eq_ofReal
  obtain ⟨corners, hasCorners, -⟩ := Mesh.exists_corners_of_meet met
  have ofTree := ofTree_outline mesh.positions mesh.faces
  obtain ⟨leaf, member, holds⟩ := ofTree.exists_leaf (Mesh.lt_of_corners hasCorners)
  have found := ofTree.mem_met_iff member holds (.ofReal numbers) bound
  rw [ofTree.leaf_meets_iff_admits finite member holds met, ← List.mem_toArray] at found
  exact ⟨_, ofTree, leaf, member, holds, _, ofTree.candidates_eq_met finite rayFinite bound, found,
    fun close => found.mpr (ofTree.admits_of_close finite member holds met close)⟩

theorem mem_candidates_iff_admits_distantTriangle :
    let tree := build distantTriangle.positions distantTriangle.faces
    let ray := Ray.ofReal slantedRay
    (∃ hit, distantTriangle.meet 0 ray infinity = .ok (some hit)) ∧
      ∃ outline : Outline Exact, outline.OfTree tree ∧ ∃ leaf ∈ outline.leaves,
        0 ∈ leaf.triangles tree.order ∧
        ∃ found, candidates tree ray infinity = .ok found ∧ (0 ∈ found ↔ leaf.box.Admits ray) := by
  intro tree ray
  obtain ⟨outline, ofTree, leaf, member, holds, found, isFound, admits, -⟩ :=
    mem_candidates_iff_admits finite_distantTriangle slantedRay.isFinite_ofReal
      meet_distantTriangle
  exact ⟨⟨_, meet_distantTriangle⟩, outline, ofTree, leaf, member, holds, found, isFound, admits⟩

/-- The tree reports no candidate for a triangle that the ray hits. -/
theorem distantTriangle_missed :
    FiniteVertices distantTriangle.positions ∧ distantTriangle.Indexed ∧
      (Ray.ofReal slantedRay).IsFinite ∧
      (∃ hit, distantTriangle.meet 0 (.ofReal slantedRay) infinity = .ok (some hit)) ∧
      candidates (build distantTriangle.positions distantTriangle.faces) (.ofReal slantedRay)
        infinity = .ok #[] := by
  have ofTree := ofTree_distantTriangle
  have finite := finite_distantTriangle
  have missed : (faceBox distantTriangle.positions ⟨0, 1, 2⟩).meets (.ofReal slantedRay)
      infinity = false := by
    obtain ⟨leaf, member, holds⟩ := ofTree.exists_leaf Nat.one_pos
    obtain rfl := List.mem_singleton.mp member
    refine Bool.eq_false_iff.mpr fun meets => not_admits_distantTriangle ?_
    exact (ofTree.leaf_meets_iff_admits finite member holds meet_distantTriangle).mp meets
  refine ⟨finite, indexed_distantTriangle, slantedRay.isFinite_ofReal, ⟨_, meet_distantTriangle⟩,
    ?_⟩
  rw [ofTree.candidates_eq_met finite slantedRay.isFinite_ofReal]
  simp [Outline.met, Outline.leaves, missed]

end Bvh

end RayTracer
