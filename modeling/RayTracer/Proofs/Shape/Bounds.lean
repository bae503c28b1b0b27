import RayTracer.Proofs.Mesh.Editing
import RayTracer.Proofs.Shape.Agreement
import RayTracer.Proofs.Shape.Finite
import RayTracer.Proofs.Sphere.Surface

/-!
# The box around a shape

In exact arithmetic the box around a shape contains every point in which a ray hits the
shape (`Shape.contains_bounds_of_closest`). The reason is another one for each kind of
shape: a point of a sphere is no farther from the centre along any axis than in all; a
point of a triangle is a weighted mean of the corners; a plane has the box of all points.
A point of a mesh is one of its triangles, whose corners are vertices, and the box of a
mesh is around all vertices whatever has been added to it. A tree of boxes plays no part
in this: it only decides which triangles are tested.
-/

set_option autoImplicit false

namespace RayTracer

open Exact

theorem Box.around_everywhere (point : Vec3 ℝ) : (everywhere : Box Exact).Around point := by
  intro axis
  cases axis <;> exact ⟨trivial, trivial⟩

/-- No component of a vector exceeds its length. -/
theorem Vec3.abs_get_le {vector : Vec3 ℝ} {radius : ℝ} (nonneg : 0 ≤ radius)
    (length : inner vector vector = radius * radius) (axis : Axis) :
    |vector.get axis| ≤ radius := by
  have x := mul_self_nonneg vector.x
  have y := mul_self_nonneg vector.y
  have z := mul_self_nonneg vector.z
  have component : vector.get axis * vector.get axis ≤ radius * radius := by
    rw [← length, inner]
    cases axis <;> simp only [get] <;> linarith
  exact abs_le_of_sq_le_sq (by simpa only [sq] using component) nonneg

/-! ## The kinds of shapes -/

/-- The box around a sphere is the box of its centre with the radius for a margin. -/
theorem Sphere.bounds_eq_padded (centre : Vec3 ℝ) (radius : ℝ) :
    bounds ⟨.ofReal centre, real radius⟩ = (Box.ofPoint (.ofReal centre)).padded (real radius) := by
  refine (if_neg ?_).symm
  rw [Box.isEmpty, decide_eq_true_iff]
  rintro (crossed | crossed | crossed) <;> exact lt_irrefl _ (real_lt_real.mp crossed)

/-- A ray hits a sphere in the box around the sphere. -/
theorem Sphere.around_bounds_of_closest {centre : Vec3 ℝ} {radius : ℝ} {ray : Ray ℝ}
    {bound : Exact} {hit : SurfaceHit Exact}
    (found : (around (.ofReal centre) (real radius)).closest (.ofReal ray) bound = some hit) :
    ∃ lambda, hit.lambda = real lambda ∧
      (around (.ofReal centre) (real radius)).bounds.Around (ray.follow lambda) := by
  rw [around_ofReal] at found ⊢
  obtain ⟨root, isRoot, rfl⟩ := Option.map_eq_some_iff.mp found
  obtain ⟨lambda, rfl, -, -, -, onSurface⟩ := onSurface_of_root isRoot
  refine ⟨lambda, rfl, ?_⟩
  rw [bounds_eq_padded]
  refine Box.around_padded (Box.sound_ofPoint centre) (Box.sound_ofPoint centre).within_refl ?_
  intro axis
  rw [← Vec3.get_minus]
  exact Vec3.abs_get_le (le_max_right radius 0) onSurface axis

/-- A ray hits a triangle in every box around the corners. -/
theorem Corners.around_ofPoints_of_meet {corners : Corners (Vec3 ℝ)} {ray : Ray ℝ} {bound : Exact}
    {hit : TriangleHit Exact} (found : (ofReal corners).meet (.ofReal ray) bound = some hit)
    {points : List (Vec3 Exact)} (finite : ∀ point ∈ points, point.IsFinite)
    (subset : (ofReal corners).toList ⊆ points) :
    ∃ lambda, hit.lambda = real lambda ∧ (Box.ofPoints points).Around (ray.follow lambda) := by
  obtain ⟨lambda, second, third, rfl, -, -, crosses⟩ := crosses_of_meet found
  have corner {point : Vec3 ℝ} (isCorner : .ofReal point ∈ (ofReal corners).toList) :
      (Box.ofPoints points).Around point :=
    Box.around_ofPoints finite (subset isCorner)
  refine ⟨lambda, rfl, crosses.around (Box.sound_ofPoints finite) ?_ ?_ ?_⟩
  all_goals exact corner (by simp [Corners.toList, ofReal, Corners.map])

/-- A ray hits a mesh in the box around its vertices, whichever triangles are tested. -/
theorem Mesh.around_bounds_of_closestAmong {mesh : Mesh Exact} (bounded : mesh.Bounded)
    (finite : FiniteVertices mesh.positions) {ray : Ray ℝ} {bound : Exact} {triangles : List Nat}
    {surface : SurfaceHit Exact}
    (found : mesh.closestAmong (.ofReal ray) bound triangles = .ok (some surface)) :
    ∃ lambda, surface.lambda = real lambda ∧ mesh.bounds.Around (ray.follow lambda) := by
  obtain ⟨nearest, -, isSurface, before, isHit⟩ := exists_nearest_of_closestAmong found
  obtain ⟨corners, hasCorners, met⟩ := exists_corners_of_meet isHit
  obtain ⟨face, -, numbers, rfl, vertices⟩ := exists_realCorners finite hasCorners
  rw [(of_surfaceHit isSurface).1, bounded]
  have finitePoints : ∀ point ∈ mesh.positions.toList, point.IsFinite :=
    fun point member => finite point (Array.mem_toList_iff.mp member)
  refine Corners.around_ofPoints_of_meet met finitePoints fun point isCorner => ?_
  rw [Array.mem_toList_iff]
  obtain rfl | rfl | rfl := by simpa [Corners.toList] using isCorner
  · exact Array.mem_of_getElem? vertices.a
  · exact Array.mem_of_getElem? vertices.b
  · exact Array.mem_of_getElem? vertices.c

/-! ## Shapes -/

namespace Shape

/-- The shapes that are made of numbers: spheres, planes and triangles from what
determines them, and meshes by additions to some parts. A tree is that of its mesh. -/
inductive Made : Shape Exact → Prop
  | sphere (centre : Vec3 ℝ) (radius : ℝ) :
      Made (.sphere (.around (.ofReal centre) (real radius)))
  | plane (point normal : Vec3 ℝ) : Made (.plane (.through (.ofReal point) (.ofReal normal)))
  | triangle (corners : Corners (Vec3 ℝ)) (uvw : Corners (Vec3 Exact)) :
      Made (.triangle (.textured (.ofReal corners) uvw))
  | mesh {surface : Mesh Exact} (built : surface.Built)
      (finite : FiniteVertices surface.positions) : Made (.mesh surface)
  | accelerated {surface : AcceleratedMesh Exact} (built : surface.mesh.Built)
      (finite : FiniteVertices surface.mesh.positions) (current : surface.Current) :
      Made (.accelerated surface)

theorem Made.wellFormed {shape : Shape Exact} (made : shape.Made) (indexed : shape.Indexed) :
    shape.WellFormed := by
  cases made with
  | mesh built finite => exact indexed
  | accelerated built finite current => exact ⟨indexed, current⟩
  | _ => trivial

/-- A hit on a shape is in the box around the shape. -/
theorem Made.around_bounds_of_closest {shape : Shape Exact} (made : shape.Made) {ray : Ray ℝ}
    {bound : Exact} {hit : SurfaceHit Exact}
    (found : shape.closest (.ofReal ray) bound = .ok (some hit)) :
    ∃ lambda, hit.lambda = real lambda ∧ shape.bounds.Around (ray.follow lambda) := by
  cases made with
  | sphere centre radius => exact Sphere.around_bounds_of_closest (Except.ok.inj found)
  | plane point normal =>
    rw [Figure.through_ofReal] at found
    obtain ⟨root, isRoot, rfl⟩ := Option.map_eq_some_iff.mp (Except.ok.inj found)
    obtain ⟨-, rfl⟩ := Figure.crossing_plane_eq_some_iff.mp (Option.filter_eq_some_iff.mp isRoot).1
    exact ⟨_, rfl, Box.around_everywhere _⟩
  | triangle corners uvw =>
    obtain ⟨triangleHit, met, rfl⟩ := Option.map_eq_some_iff.mp (Except.ok.inj found)
    refine Corners.around_ofPoints_of_meet met ?_ (List.Subset.refl _)
    intro point isCorner
    obtain rfl | rfl | rfl := by simpa [Corners.toList] using isCorner
    all_goals exact Vec3.isFinite_ofReal _
  | mesh built finite => exact Mesh.around_bounds_of_closestAmong built.bounded finite found
  | accelerated built finite current =>
    obtain ⟨candidates, -, found⟩ := exists_of_bind_eq_ok found
    exact Mesh.around_bounds_of_closestAmong built.bounded finite found

/-- **The box around a shape contains every hit.** When all vertex indices are in range a
query does not fault, and the point of the ray at the parameter it reports is in the box. -/
theorem contains_bounds_of_closest {shape : Shape Exact} (made : shape.Made)
    (indexed : shape.Indexed) {ray : Ray Exact} (rayFinite : ray.IsFinite) (bound : Exact) :
    ∃ found, shape.closest ray bound = .ok found ∧
      ∀ hit, found = some hit → shape.bounds.contains (ray.pointAt hit.lambda) = true := by
  obtain ⟨numbers, rfl⟩ := rayFinite.eq_ofReal
  obtain ⟨found, answered, -⟩ := agree (made.wellFormed indexed) (.ofReal numbers) bound
  refine ⟨found, answered, ?_⟩
  rintro hit rfl
  obtain ⟨lambda, isLambda, around⟩ := made.around_bounds_of_closest answered
  rw [isLambda, Ray.pointAt_ofReal]
  exact Box.contains_iff_around.mpr around

/-- A triangle added to the empty mesh vertex by vertex, and a ray through it. -/
theorem contains_bounds_of_closest_added :
    let corners : Corners (Vec3 ℝ) := ⟨⟨0, 0, 2⟩, ⟨4, 0, 2⟩, ⟨0, 4, 2⟩⟩
    let mesh : Mesh Exact := Mesh.empty.extend
      [.vertex (.ofReal corners.a) 0, .vertexWithUvw (.ofReal corners.b) 0 0, .face ⟨0, 1, 2⟩,
        .vertex (.ofReal corners.c) 0]
    let ray := Ray.ofReal ⟨⟨1, 1, 0⟩, ⟨0, 0, 1⟩⟩
    (Shape.mesh mesh).Made ∧ (Shape.mesh mesh).Indexed ∧ ray.IsFinite ∧
      ∃ hit, (Shape.mesh mesh).closest ray infinity = .ok (some hit) ∧
        (Shape.mesh mesh).bounds.contains (ray.pointAt hit.lambda) = true := by
  intro corners mesh ray
  have positions : mesh.positions = #[corners.a, corners.b, corners.c].map .ofReal := by
    simp [mesh, Mesh.extend, Mesh.Edit.perform, Mesh.addVertex, Mesh.addVertexWithUvw,
      Mesh.addFace, Mesh.pushVertex, Mesh.empty]
  have faces : mesh.faces = #[⟨0, 1, 2⟩] := rfl
  have made : (Shape.mesh mesh).Made :=
    .mesh (.extend #[] #[] #[] _) (positions ▸ finiteVertices_ofReal _)
  have indexed : mesh.Indexed := by
    intro face member index isCorner
    obtain rfl : face = ⟨0, 1, 2⟩ := by simpa [faces] using member
    obtain rfl | rfl | rfl := by simpa [Corners.toList] using isCorner
    all_goals simp [positions]
  have isHit : mesh.Hits ray infinity 0 ⟨real 2, .ofReal ⟨1 / 2, 1 / 4, 1 / 4⟩⟩ := by
    have hasCorners : mesh.corners 0 = .ok (.ofReal corners) := by
      refine Mesh.corners_eq_ok_iff.mpr ⟨⟨0, 1, 2⟩, rfl, Mesh.gather_eq_ok_iff.mpr ?_⟩
      simp [positions, Corners.ofReal, Corners.map]
    rw [Mesh.Hits, Mesh.meet_of_corners hasCorners]
    refine congrArg Except.ok (Corners.Reaches.meet ⟨by norm_num, trivial, fun axis => ?_,
      by norm_num, fun axis => ?_⟩ ?_)
    · cases axis <;> norm_num [Vec3.get]
    · rw [Ray.get_follow]
      cases axis <;> norm_num [Vec3.get, corners]
    · norm_num [Corners.determinant, corners, Vec3.inner, Vec3.outer, Vec3.minus, Vec3.zipWith]
  obtain ⟨found, answered, contained⟩ :=
    contains_bounds_of_closest made indexed (Ray.isFinite_ofReal _) infinity
  obtain ⟨hit, rfl⟩ : ∃ hit, found = some hit := by
    obtain ⟨surface, isSurface, -⟩ := indexed.exists_surfaceHit isHit.lt_size _
    have searched : mesh.nearestAmong ray infinity mesh.triangles = .ok (some ⟨0, _⟩) :=
      congrArg (· >>= pure) (Mesh.closer_of_hit isHit)
    have closest := Mesh.closestAmong_of_some searched isSurface
    exact ⟨surface, Except.ok.inj (answered.symm.trans closest)⟩
  exact ⟨made, indexed, Ray.isFinite_ofReal _, hit, answered, contained hit rfl⟩

end Shape

end RayTracer
