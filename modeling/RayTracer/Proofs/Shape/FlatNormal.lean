import RayTracer.Proofs.Shape.Finite

/-!
# Normals of flat triangles

The normal of a single triangle, and of a triangle in a mesh without vertex normals, is the
direction of its area vector. It is perpendicular to all edges
(`Corners.perpendicular_times_across`). Its length is one, unless the area vector is no longer
than the tolerance for lengths: then it is zero.

A ray hits a triangle only where the determinant reaches another threshold. When the
direction of the ray has length one, the determinant is no larger than the area vector is
long (`Corners.abs_determinant_le`), so very small triangles are never hit. But that threshold
is far below the tolerance. A speck is a triangle between the two. It has no direction across
it, and it can be hit: straight from above, for instance (`Corners.Speck.exists_hit`). All other
normals that are reported have length one (`Corners.flatNormal_of_hit`).
-/

set_option autoImplicit false

namespace RayTracer

open Exact

/-! ## Lengths -/

namespace Vec3

/-- The inner product with a vector of length one is at most the length of the other one. -/
theorem abs_inner_le_length {heading : Vec3 ℝ} (isUnit : inner heading heading = 1)
    (vector : Vec3 ℝ) : |inner heading vector| ≤ vector.length := by
  refine Real.abs_le_sqrt ?_
  -- The squared length of the cross product is what is left over.
  have apart := inner_self_nonneg (outer heading vector)
  rw [inner_outer_outer, isUnit] at apart
  linarith

theorem length_times (factor : ℝ) (vector : Vec3 ℝ) :
    (times factor vector).length = |factor| * vector.length := by
  rw [length, times_inner, inner_times, ← mul_assoc, Real.sqrt_mul (mul_self_nonneg factor),
    Real.sqrt_mul_self_eq_abs, length]

end Vec3

namespace Corners

/-! ## Across the edges -/

/-- A vector is perpendicular to the edges of a triangle. -/
structure Perpendicular (corners : Corners (Vec3 Exact)) (normal : Vec3 Exact) : Prop where
  first : normal.dot (corners.b - corners.a) = 0
  second : normal.dot (corners.c - corners.b) = 0
  third : normal.dot (corners.a - corners.c) = 0

theorem perpendicular_ofReal_iff {corners : Corners (Vec3 ℝ)} {normal : Vec3 ℝ} :
    (ofReal corners).Perpendicular (.ofReal normal) ↔
      Vec3.inner normal (corners.b.minus corners.a) = 0 ∧
        Vec3.inner normal (corners.c.minus corners.b) = 0 ∧
          Vec3.inner normal (corners.a.minus corners.c) = 0 := by
  have iff (edge : Vec3 ℝ) : (Vec3.ofReal normal).dot (.ofReal edge) = 0 ↔
      Vec3.inner normal edge = 0 := by
    rw [Vec3.dot_ofReal, zero_eq_real, Exact.real.injEq]
  rw [← iff, ← iff, ← iff]
  simp only [← Vec3.ofReal_sub_ofReal]
  exact ⟨fun across => ⟨across.first, across.second, across.third⟩,
    fun ⟨first, second, third⟩ => ⟨first, second, third⟩⟩

/-- All multiples of the area vector are perpendicular to the edges. -/
theorem perpendicular_times_across (corners : Corners (Vec3 ℝ)) (factor : ℝ) :
    (ofReal corners).Perpendicular (.ofReal (Vec3.times factor corners.across)) := by
  rw [perpendicular_ofReal_iff]
  simp only [Vec3.times_inner]
  refine ⟨?_, ?_, ?_⟩
  all_goals
    refine mul_eq_zero_of_right factor ?_
    simp only [across, Vec3.inner, Vec3.outer, Vec3.minus, Vec3.zipWith]
    ring

theorem areaVector_ofReal (corners : Corners (Vec3 ℝ)) :
    (ofReal corners).areaVector = .ofReal corners.across := by
  simp only [areaVector, ofReal, Corners.map, Vec3.ofReal_sub_ofReal, Vec3.cross_ofReal, across]

theorem norm_areaVector_ofReal (corners : Corners (Vec3 ℝ)) :
    (ofReal corners).areaVector.norm = real corners.across.length := by
  rw [areaVector_ofReal, Vec3.norm_ofReal]

/-! ## Normals -/

/-- What the normal of a flat triangle that is hit is like. -/
structure FlatNormal (corners : Corners (Vec3 Exact)) (normal : Vec3 Exact) : Prop where
  perpendicular : corners.Perpendicular normal
  threshold_le : parallelThreshold ≤ corners.areaVector.norm
  norm_eq_one : epsilon < corners.areaVector.norm → normal.norm = 1
  eq_zero : corners.areaVector.norm ≤ epsilon → normal = 0

/-- A triangle that can be hit and is too small to have a normal. -/
structure Speck (corners : Corners (Vec3 Exact)) : Prop where
  threshold_le : parallelThreshold ≤ corners.areaVector.norm
  le_epsilon : corners.areaVector.norm ≤ epsilon

variable {corners : Corners (Vec3 ℝ)} {ray : Ray ℝ}

theorem direction_across_of_le (small : corners.across.length ≤ 1e-9) :
    corners.across.direction = ⟨0, 0, 0⟩ := by
  obtain ⟨long, -⟩ | ⟨-, -, isZero⟩ := corners.across.direction_cases
  · exact absurd small long.not_ge
  · exact isZero

/-- The determinant for a ray of length one is at most twice the area of the triangle. -/
theorem abs_determinant_le (isUnit : Vec3.inner ray.direction ray.direction = 1) :
    |corners.determinant ray| ≤ corners.across.length := by
  rw [← abs_neg, ← Figure.inner_across, Vec3.inner_comm]
  exact Vec3.abs_inner_le_length isUnit _

/-- The normal on either side of a triangle that a ray of length one hits. -/
theorem flatNormal_of_meet (isUnit : Vec3.inner ray.direction ray.direction = 1) {bound : Exact}
    {hit : TriangleHit Exact} (met : (ofReal corners).meet (.ofReal ray) bound = some hit)
    {side : ℝ} (either : |side| = 1) :
    (ofReal corners).FlatNormal (.ofReal (Vec3.times side corners.across.direction)) where
  perpendicular := by
    have merged : Vec3.times side corners.across.direction =
        Vec3.times (side * corners.across.stretch) corners.across := by
      simp only [Vec3.direction, Vec3.times, Vec3.map, mul_assoc]
    rw [merged]
    exact corners.perpendicular_times_across _
  threshold_le := by
    rw [norm_areaVector_ofReal, parallelThreshold_eq_real, real_le_real]
    exact (not_lt.mp (not_parallel_of_meet met)).trans (abs_determinant_le isUnit)
  norm_eq_one := by
    rw [norm_areaVector_ofReal, epsilon_eq_real, real_lt_real]
    intro long
    rw [Vec3.norm_ofReal, Vec3.length_times, either, Vec3.length,
      Vec3.inner_direction_direction long, Real.sqrt_one, one_mul, one_eq_real]
  eq_zero := by
    rw [norm_areaVector_ofReal, epsilon_eq_real, real_le_real]
    intro small
    simp only [direction_across_of_le small, Vec3.times, Vec3.map, mul_zero, Vec3.ofReal_zero]

/-- The direction of the area vector of a triangle that a ray of length one hits. -/
theorem flatNormal_unit (isUnit : Vec3.inner ray.direction ray.direction = 1) {bound : Exact}
    {hit : TriangleHit Exact} (met : (ofReal corners).meet (.ofReal ray) bound = some hit) :
    (ofReal corners).FlatNormal (ofReal corners).areaVector.unit := by
  have front : (ofReal corners).FlatNormal (.ofReal (Vec3.times 1 corners.across.direction)) :=
    flatNormal_of_meet isUnit met abs_one
  rw [areaVector_ofReal, Vec3.unit_ofReal_eq_direction]
  simpa only [Vec3.times, Vec3.map, one_mul] using front

/-! ## Hits on single triangles -/

/-- A single triangle reports the normal on the side the ray comes from. -/
theorem flatNormal_of_closest (isUnit : Vec3.inner ray.direction ray.direction = 1)
    {uvw : Corners (Vec3 Exact)} {bound : Exact} {hit : SurfaceHit Exact}
    (found : (Triangle.textured (ofReal corners) uvw).closest (.ofReal ray) bound = some hit) :
    (ofReal corners).FlatNormal hit.normal := by
  obtain ⟨triangleHit, met, rfl⟩ := Option.map_eq_some_iff.mp found
  change (ofReal corners).FlatNormal (Triangle.facingNormal _ _)
  rw [Triangle.facingNormal]
  split
  · rw [Figure.textured_ofReal, Vec3.neg_ofReal]
    exact flatNormal_of_meet isUnit met (by norm_num)
  · exact flatNormal_unit isUnit met

/-- The hit in a point of a triangle that a ray reaches. -/
theorem Reaches.closest {bound : Exact} {lambda : ℝ} {weights : Vec3 ℝ}
    (reaches : corners.Reaches ray bound lambda weights)
    (notParallel : ¬|corners.determinant ray| < 1e-14) (uvw : Corners (Vec3 Exact)) :
    let triangle := Triangle.textured (ofReal corners) uvw
    triangle.closest (.ofReal ray) bound =
      some ⟨real lambda, triangle.facingNormal (.ofReal ray.direction),
        uvw.interpolate (.ofReal weights)⟩ := by
  intro triangle
  exact Option.map_eq_some_iff.mpr ⟨_, reaches.meet notParallel, rfl⟩

/-- The ray of length one straight down to the middle of a triangle, from a distance of one. -/
noncomputable def facingRay (corners : Corners (Vec3 ℝ)) : Ray ℝ :=
  let straight := Vec3.times corners.across.length⁻¹ corners.across
  let middle := Vec3.times (1 / 3) (Vec3.plus (Vec3.plus corners.a corners.b) corners.c)
  ⟨middle.minus straight, straight⟩

theorem reaches_facingRay {bound : Exact} (far : real 1 < bound) :
    corners.Reaches corners.facingRay bound 1 ⟨1 / 3, 1 / 3, 1 / 3⟩ where
  positive := one_pos
  before := far
  nonneg axis := by cases axis <;> norm_num [Vec3.get]
  sum := by norm_num
  point axis := by
    rw [Ray.get_follow, facingRay]
    cases axis <;>
      simp only [Vec3.get, Vec3.minus, Vec3.zipWith, Vec3.times, Vec3.map, Vec3.plus] <;> ring

section Facing

variable (large : 1e-14 ≤ corners.across.length)
include large

theorem length_across_pos : 0 < corners.across.length := by
  have positive : (0 : ℝ) < 1e-14 := by norm_num
  exact positive.trans_le large

theorem facingRay_isUnit :
    Vec3.inner corners.facingRay.direction corners.facingRay.direction = 1 := by
  have nonzero := (length_across_pos large).ne'
  rw [facingRay, Vec3.inner_times, Vec3.times_inner, ← Vec3.length_mul_length]
  field_simp

theorem determinant_facingRay : corners.determinant corners.facingRay = -corners.across.length := by
  rw [← neg_neg (corners.determinant _), ← Figure.inner_across, facingRay, Vec3.inner_times,
    ← Vec3.length_mul_length, inv_mul_cancel_left₀ (length_across_pos large).ne']

/-- **A triangle that is large enough to be hit at all is hit straight from above.** -/
theorem closest_facing {bound : Exact} (far : real 1 < bound) (uvw : Corners (Vec3 Exact)) :
    ∃ hit, (Triangle.textured (ofReal corners) uvw).closest (.ofReal corners.facingRay) bound =
      some hit := by
  have notParallel : ¬|corners.determinant corners.facingRay| < 1e-14 := by
    rw [determinant_facingRay large, abs_neg, not_lt]
    exact large.trans (le_abs_self _)
  exact ⟨_, (reaches_facingRay far).closest notParallel uvw⟩

end Facing

variable {corners : Corners (Vec3 Exact)} {ray : Ray Exact}

/-- All specks can be hit where they do not have a normal. -/
theorem Speck.exists_hit (speck : corners.Speck) (finite : corners.IsFinite)
    (uvw : Corners (Vec3 Exact)) :
    ∃ ray : Ray Exact, ray.IsFinite ∧ ray.direction.norm = 1 ∧
      ∃ hit, (Triangle.textured corners uvw).closest ray infinity = some hit ∧ hit.normal = 0 := by
  obtain ⟨numbers, rfl⟩ := finite.eq_ofReal
  have large : 1e-14 ≤ numbers.across.length := by
    have large := speck.threshold_le
    rwa [norm_areaVector_ofReal, parallelThreshold_eq_real, real_le_real] at large
  have isUnit := facingRay_isUnit large
  obtain ⟨hit, found⟩ := closest_facing large (show real 1 < infinity from trivial) uvw
  exact ⟨_, Ray.isFinite_ofReal _, Vec3.norm_eq_one_iff.mpr isUnit, hit, found,
    (flatNormal_of_closest isUnit found).eq_zero speck.le_epsilon⟩

end Corners

/-! ## Hits on meshes -/

namespace Mesh

variable {mesh : Mesh Exact}

/-- Without vertex normals, the normal of a triangle is the direction of its area vector. -/
theorem normalAt_of_corners (isFlat : mesh.normals = #[]) {triangle : Nat}
    {corners : Corners (Vec3 Exact)} (hasCorners : mesh.corners triangle = .ok corners)
    (weights : Vec3 Exact) : mesh.normalAt triangle weights = .ok corners.areaVector.unit := by
  have differentSize : mesh.normals.size ≠ mesh.positions.size := by
    obtain ⟨face, -, gathered⟩ := corners_eq_ok_iff.mp hasCorners
    obtain ⟨inRange, -⟩ := Array.getElem?_eq_some_iff.mp (gather_eq_ok_iff.mp gathered).1
    rw [isFlat, Array.size_empty]
    omega
  exact normalAt_of_misaligned differentSize hasCorners weights

/-- The normal that a mesh without vertex normals reports is that of the nearest triangle. -/
theorem flatNormal_of_closestAmong (isFlat : mesh.normals = #[])
    (finite : FiniteVertices mesh.positions) {ray : Ray ℝ}
    (isUnit : Vec3.inner ray.direction ray.direction = 1) {bound : Exact} {triangles : List Nat}
    {hit : SurfaceHit Exact}
    (found : mesh.closestAmong (.ofReal ray) bound triangles = .ok (some hit)) :
    ∃ nearest corners, mesh.nearestAmong (.ofReal ray) bound triangles = .ok (some nearest) ∧
      nearest.hit.lambda = hit.lambda ∧ mesh.corners nearest.triangle = .ok corners ∧
        corners.FlatNormal hit.normal := by
  obtain ⟨nearest, searched, isSurface, before, isHit⟩ := exists_nearest_of_closestAmong found
  obtain ⟨corners, hasCorners, met⟩ := exists_corners_of_meet isHit
  obtain ⟨isLambda, isNormal⟩ := of_surfaceHit isSurface
  refine ⟨nearest, corners, searched, isLambda.symm, hasCorners, ?_⟩
  rw [normalAt_of_corners isFlat hasCorners, Except.ok.injEq] at isNormal
  rw [← isNormal]
  obtain ⟨-, -, numbers, rfl, -⟩ := exists_realCorners finite hasCorners
  exact Corners.flatNormal_unit isUnit met

end Mesh

/-! ## Flat hits -/

/-- **Flat triangles report the direction of the area vector of the triangle that is hit.** It
is perpendicular to the edges, and on the side the ray comes from when the triangle stands
alone. Its length is one when the area vector is longer than the tolerance, and it is zero when
the triangle is a speck. -/
theorem Corners.flatNormal_of_hit {ray : Ray Exact} (rayFinite : ray.IsFinite)
    (isUnit : ray.direction.norm = 1) (bound : Exact) :
    (∀ (corners uvw : Corners (Vec3 Exact)) (hit : SurfaceHit Exact), corners.IsFinite →
      (Triangle.textured corners uvw).closest ray bound = some hit →
        corners.FlatNormal hit.normal ∧ ray.direction.dot hit.normal ≤ 0) ∧
    (∀ (mesh : Mesh Exact) (hit : SurfaceHit Exact), FiniteVertices mesh.positions →
      mesh.normals = #[] → mesh.closest ray bound = .ok (some hit) →
        ∃ nearest corners, mesh.nearestAmong ray bound mesh.triangles = .ok (some nearest) ∧
          nearest.hit.lambda = hit.lambda ∧ mesh.corners nearest.triangle = .ok corners ∧
            corners.FlatNormal hit.normal) := by
  obtain ⟨line, rfl⟩ := rayFinite.eq_ofReal
  have isUnit := Vec3.norm_eq_one_iff.mp isUnit
  refine ⟨fun corners uvw hit finite found => ?_, fun mesh hit finite isFlat found => ?_⟩
  · obtain ⟨numbers, rfl⟩ := finite.eq_ofReal
    refine ⟨flatNormal_of_closest isUnit found, ?_⟩
    obtain ⟨triangleHit, -, rfl⟩ := Option.map_eq_some_iff.mp found
    exact Triangle.dot_facingNormal_nonpos numbers uvw line.direction
  · exact Mesh.flatNormal_of_closestAmong isFlat finite isUnit found

/-- A large triangle across the third axis has a normal of length one that points back. -/
theorem Corners.flatNormal_of_hit_facing :
    ∃ hit, (Triangle.ofCorners (ofReal ⟨⟨0, 0, 2⟩, ⟨1, 0, 2⟩, ⟨0, 1, 2⟩⟩)).closest
        (.ofReal ⟨⟨1 / 4, 1 / 4, 0⟩, ⟨0, 0, 1⟩⟩) infinity = some hit ∧
      hit.normal.norm = 1 ∧ (Vec3.ofReal ⟨0, 0, 1⟩).dot hit.normal ≤ 0 := by
  have reaches : Reaches ⟨⟨0, 0, 2⟩, ⟨1, 0, 2⟩, ⟨0, 1, 2⟩⟩ ⟨⟨1 / 4, 1 / 4, 0⟩, ⟨0, 0, 1⟩⟩
      infinity 2 ⟨1 / 2, 1 / 4, 1 / 4⟩ := by
    refine ⟨by norm_num, trivial, fun axis => ?_, by norm_num, fun axis => ?_⟩
    · cases axis <;> norm_num [Vec3.get]
    · rw [Ray.get_follow]
      cases axis <;> norm_num [Vec3.get]
  have isHit := reaches.closest
    (by norm_num [determinant, Vec3.inner, Vec3.outer, Vec3.minus, Vec3.zipWith]) ⟨0, 0, 0⟩
  have isUnit : (Vec3.ofReal ⟨0, 0, 1⟩).norm = 1 :=
    Vec3.norm_eq_one_iff.mpr (by norm_num [Vec3.inner])
  have rayFinite : (Ray.ofReal ⟨⟨1 / 4, 1 / 4, 0⟩, ⟨0, 0, 1⟩⟩).IsFinite := Ray.isFinite_ofReal _
  obtain ⟨flat, towards⟩ := (flatNormal_of_hit rayFinite isUnit infinity).1 _ _ _
    ⟨⟨_, rfl⟩, ⟨_, rfl⟩, ⟨_, rfl⟩⟩ isHit
  refine ⟨_, isHit, flat.norm_eq_one ?_, towards⟩
  rw [norm_areaVector_ofReal, epsilon_eq_real, real_lt_real, Vec3.length]
  norm_num [across, Vec3.inner, Vec3.outer, Vec3.minus, Vec3.zipWith]

/-- A ray of length one hits a triangle with legs of `3e-5` straight from below, and the
normal there is zero. -/
theorem Corners.flatNormal_speck :
    ∃ hit, (Triangle.ofCorners (ofReal ⟨⟨0, 0, 1⟩, ⟨3e-5, 0, 1⟩, ⟨0, 3e-5, 1⟩⟩)).closest
        (.ofReal ⟨⟨1e-5, 1e-5, 0⟩, ⟨0, 0, 1⟩⟩) infinity = some hit ∧
      (Vec3.ofReal ⟨0, 0, 1⟩).norm = 1 ∧ hit.normal = 0 ∧ hit.normal.norm ≠ 1 := by
  have reaches : Reaches ⟨⟨0, 0, 1⟩, ⟨3e-5, 0, 1⟩, ⟨0, 3e-5, 1⟩⟩ ⟨⟨1e-5, 1e-5, 0⟩, ⟨0, 0, 1⟩⟩
      infinity 1 ⟨1 / 3, 1 / 3, 1 / 3⟩ := by
    refine ⟨by norm_num, trivial, fun axis => ?_, by norm_num, fun axis => ?_⟩
    · cases axis <;> norm_num [Vec3.get]
    · rw [Ray.get_follow]
      cases axis <;> norm_num [Vec3.get]
  have isHit := reaches.closest
    (by norm_num [determinant, Vec3.inner, Vec3.outer, Vec3.minus, Vec3.zipWith]) ⟨0, 0, 0⟩
  have isUnit : Vec3.inner ⟨0, 0, 1⟩ ⟨0, 0, 1⟩ = (1 : ℝ) := by norm_num [Vec3.inner]
  have isZero := (flatNormal_of_closest isUnit isHit).eq_zero (by
    rw [norm_areaVector_ofReal, epsilon_eq_real, real_le_real, Vec3.length, Real.sqrt_le_iff]
    norm_num [across, Vec3.inner, Vec3.outer, Vec3.minus, Vec3.zipWith])
  refine ⟨_, isHit, Vec3.norm_eq_one_iff.mpr isUnit, isZero, ?_⟩
  rw [isZero, ← Vec3.ofReal_zero, Ne, Vec3.norm_eq_one_iff, Vec3.inner_zero_left]
  exact zero_ne_one

end RayTracer
