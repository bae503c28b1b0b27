import RayTracer.Triangle
import RayTracer.Proofs.Box.Containment

/-!
# Where a ray crosses a triangle

In exact arithmetic the crossing of a ray with a triangle solves the equations
it is meant to solve: the point of the ray at the reported parameter is the
weighted sum of the corners, with weights that are not negative and add up to
one (`Corners.crosses_of_crossing`). So the point lies in every box around the
corners (`Corners.Crosses.around`).

A line that is not parallel to a triangle passes through its plane in one point,
and the point has one triple of weights (`Corners.Crosses.eq_solution`). So a
ray hits a triangle exactly when some point of the triangle is on the ray in
range, and the hit is that point (`Corners.meet_eq_some_iff_reaches`).
-/

set_option autoImplicit false

namespace RayTracer

open Exact

/-- Cramer's rule: four vectors of space satisfy a linear equation with
determinants for coefficients. -/
theorem Vec3.cramer (first second third vector : Vec3 ℝ) (axis : Axis) :
    inner first (outer third second) * vector.get axis +
        inner second (outer vector first) * third.get axis =
      inner vector (outer third second) * first.get axis +
        inner third (outer vector first) * second.get axis := by
  cases axis <;> simp only [get, inner, outer] <;> ring

/-- Cramer's rule the other way: the coefficients of a combination of three vectors are
quotients of determinants. -/
theorem Vec3.cramer_of_combination {first second third vector : Vec3 ℝ} {along aside back : ℝ}
    (combination : ∀ axis : Axis, vector.get axis =
      along * first.get axis + aside * second.get axis - back * third.get axis) :
    inner vector (outer third second) = along * inner first (outer third second) ∧
      inner third (outer vector first) = aside * inner first (outer third second) ∧
      inner second (outer vector first) = back * inner first (outer third second) := by
  have atX := combination .x
  have atY := combination .y
  have atZ := combination .z
  simp only [get] at atX atY atZ
  refine ⟨?_, ?_, ?_⟩ <;> simp only [inner, outer, atX, atY, atZ] <;> ring

namespace Corners

/-- The corners with given real components. -/
def ofReal (corners : Corners (Vec3 ℝ)) : Corners (Vec3 Exact) := corners.map .ofReal

/-! ## Solving for the crossing -/

section Solution

variable (corners : Corners (Vec3 ℝ)) (ray : Ray ℝ)

/-- The determinant of the equations for a crossing. -/
noncomputable def determinant : ℝ :=
  (corners.b.minus corners.a).inner (ray.direction.outer (corners.c.minus corners.a))

/-- The weight of the second corner in the solution. -/
noncomputable def secondWeight : ℝ :=
  1 / corners.determinant ray * (ray.origin.minus corners.a).inner
    (ray.direction.outer (corners.c.minus corners.a))

/-- The weight of the third corner in the solution. -/
noncomputable def thirdWeight : ℝ :=
  1 / corners.determinant ray * ray.direction.inner
    ((ray.origin.minus corners.a).outer (corners.b.minus corners.a))

/-- The parameter of the ray in the solution. -/
noncomputable def parameter : ℝ :=
  1 / corners.determinant ray * (corners.c.minus corners.a).inner
    ((ray.origin.minus corners.a).outer (corners.b.minus corners.a))

end Solution

theorem parallelThreshold_eq_real : (parallelThreshold : Exact) = real 1e-14 := rfl

theorem nonzero_of_not_parallel {corners : Corners (Vec3 ℝ)} {ray : Ray ℝ}
    (notParallel : ¬|corners.determinant ray| < 1e-14) : corners.determinant ray ≠ 0 := by
  intro zero
  rw [zero, abs_zero] at notParallel
  norm_num at notParallel

/-- The crossing of finite corners in terms of the solution. -/
theorem crossing_ofReal (corners : Corners (Vec3 ℝ)) (ray : Ray ℝ) :
    (ofReal corners).crossing (.ofReal ray) =
      if |corners.determinant ray| < 1e-14 then none
      else
        let second := corners.secondWeight ray
        let third := corners.thirdWeight ray
        if 0 ≤ second ∧ second ≤ 1 ∧ ¬(third < 0 ∨ 1 < second + third) then
          some ⟨real (corners.parameter ray),
            ⟨real (1 - second - third), real second, real third⟩⟩
        else none := by
  simp only [crossing, ofReal, Corners.map, Ray.ofReal, Vec3.ofReal_sub_ofReal, Vec3.cross_ofReal,
    Vec3.dot_ofReal, abs_real, parallelThreshold_eq_real, real_lt_real]
  by_cases parallel : |corners.determinant ray| < 1e-14
  · exact (if_pos parallel).trans (if_pos parallel).symm
  · have nonzero := nonzero_of_not_parallel parallel
    refine (if_neg parallel).trans (Eq.trans ?_ (if_neg parallel).symm)
    rw [← determinant, one_eq_real, real_div_real nonzero]
    simp only [real_mul_real, real_add_real, real_sub_real, zero_eq_real, real_le_real,
      real_lt_real]
    rfl

/-- The solution satisfies the equations unless the determinant vanishes. -/
theorem solution_eq {corners : Corners (Vec3 ℝ)} {ray : Ray ℝ}
    (nonzero : corners.determinant ray ≠ 0) (axis : Axis) :
    (ray.follow (corners.parameter ray)).get axis =
      (1 - corners.secondWeight ray - corners.thirdWeight ray) * corners.a.get axis +
        corners.secondWeight ray * corners.b.get axis +
        corners.thirdWeight ray * corners.c.get axis := by
  have rule := Vec3.cramer (corners.b.minus corners.a) (corners.c.minus corners.a) ray.direction
    (ray.origin.minus corners.a) axis
  simp only [Vec3.get_minus] at rule
  rw [← determinant] at rule
  have cancel : 1 / corners.determinant ray * corners.determinant ray = 1 :=
    one_div_mul_cancel nonzero
  simp only [Ray.get_follow, parameter, secondWeight, thirdWeight]
  linear_combination 1 / corners.determinant ray * rule -
    (ray.origin.get axis - corners.a.get axis) * cancel

/-! ## Crossings as points -/

/-- A line passes through a triangle at a parameter, in the point with given
weights of the second and the third corner. -/
structure Crosses (corners : Corners (Vec3 ℝ)) (ray : Ray ℝ) (lambda second third : ℝ) :
    Prop where
  second_nonneg : 0 ≤ second
  third_nonneg : 0 ≤ third
  sum_le_one : second + third ≤ 1
  point (axis : Axis) : (ray.follow lambda).get axis =
    (1 - second - third) * corners.a.get axis + second * corners.b.get axis +
      third * corners.c.get axis

/-- **A reported crossing is a point of the line and of the triangle.** -/
theorem crosses_of_crossing {corners : Corners (Vec3 ℝ)} {ray : Ray ℝ} {hit : TriangleHit Exact}
    (found : (ofReal corners).crossing (.ofReal ray) = some hit) :
    ∃ lambda second third, hit =
        ⟨real lambda, ⟨real (1 - second - third), real second, real third⟩⟩ ∧
      corners.Crosses ray lambda second third := by
  rw [crossing_ofReal] at found
  split at found
  · cases found
  · rename_i notParallel
    dsimp only at found
    split at found
    · rename_i inside
      obtain ⟨secondNonneg, -, notOutside⟩ := inside
      rw [not_or, not_lt, not_lt] at notOutside
      exact ⟨_, _, _, (Option.some.inj found).symm, secondNonneg, notOutside.1, notOutside.2,
        solution_eq (nonzero_of_not_parallel notParallel)⟩
    · cases found

/-- A hit is a crossing between zero and the bound. -/
theorem crosses_of_meet {corners : Corners (Vec3 ℝ)} {ray : Ray ℝ} {bound : Exact}
    {hit : TriangleHit Exact} (found : (ofReal corners).meet (.ofReal ray) bound = some hit) :
    ∃ lambda second third, hit =
        ⟨real lambda, ⟨real (1 - second - third), real second, real third⟩⟩ ∧
      0 < lambda ∧ real lambda < bound ∧ corners.Crosses ray lambda second third := by
  obtain ⟨crossing, inRange⟩ := Option.filter_eq_some_iff.mp found
  obtain ⟨lambda, second, third, rfl, crosses⟩ := crosses_of_crossing crossing
  obtain ⟨positive, below⟩ := of_decide_eq_true inRange
  exact ⟨lambda, second, third, rfl, real_lt_real.mp (zero_eq_real ▸ positive), below, crosses⟩

/-- A ray hits a triangle only where it does not count as parallel to it. -/
theorem not_parallel_of_meet {corners : Corners (Vec3 ℝ)} {ray : Ray ℝ} {bound : Exact}
    {hit : TriangleHit Exact} (found : (ofReal corners).meet (.ofReal ray) bound = some hit) :
    ¬|corners.determinant ray| < 1e-14 := by
  have crossing := (Option.filter_eq_some_iff.mp found).1
  rw [crossing_ofReal] at crossing
  split at crossing
  · cases crossing
  · assumption

/-- A ray hits a triangle only where it is not parallel to it. -/
theorem determinant_ne_zero_of_meet {corners : Corners (Vec3 ℝ)} {ray : Ray ℝ} {bound : Exact}
    {hit : TriangleHit Exact} (found : (ofReal corners).meet (.ofReal ray) bound = some hit) :
    corners.determinant ray ≠ 0 :=
  nonzero_of_not_parallel (not_parallel_of_meet found)

/-- The solution of the equations is the only one unless the determinant vanishes. -/
theorem Crosses.eq_solution {corners : Corners (Vec3 ℝ)} {ray : Ray ℝ} {lambda second third : ℝ}
    (crosses : corners.Crosses ray lambda second third) (nonzero : corners.determinant ray ≠ 0) :
    lambda = corners.parameter ray ∧ second = corners.secondWeight ray ∧
      third = corners.thirdWeight ray := by
  have combination (axis : Axis) : (ray.origin.minus corners.a).get axis =
      second * (corners.b.minus corners.a).get axis +
        third * (corners.c.minus corners.a).get axis - lambda * ray.direction.get axis := by
    have point := crosses.point axis
    rw [Ray.get_follow] at point
    simp only [Vec3.get_minus]
    linear_combination point
  obtain ⟨ofSecond, ofThird, ofLambda⟩ := Vec3.cramer_of_combination combination
  rw [← determinant] at ofSecond ofThird ofLambda
  simp only [parameter, secondWeight, thirdWeight, one_div_mul_eq_div]
  exact ⟨(eq_div_iff nonzero).mpr ofLambda.symm, (eq_div_iff nonzero).mpr ofSecond.symm,
    (eq_div_iff nonzero).mpr ofThird.symm⟩

/-- A point of the line and of the triangle is reported unless the line counts as parallel. -/
theorem Crosses.crossing {corners : Corners (Vec3 ℝ)} {ray : Ray ℝ} {lambda second third : ℝ}
    (crosses : corners.Crosses ray lambda second third)
    (notParallel : ¬|corners.determinant ray| < 1e-14) :
    (ofReal corners).crossing (.ofReal ray) =
      some ⟨real lambda, ⟨real (1 - second - third), real second, real third⟩⟩ := by
  obtain ⟨rfl, rfl, rfl⟩ := crosses.eq_solution (nonzero_of_not_parallel notParallel)
  have atMostOne : corners.secondWeight ray ≤ 1 := by
    linarith [crosses.third_nonneg, crosses.sum_le_one]
  have inside : ¬(corners.thirdWeight ray < 0 ∨
      1 < corners.secondWeight ray + corners.thirdWeight ray) :=
    not_or.mpr ⟨crosses.third_nonneg.not_gt, crosses.sum_le_one.not_gt⟩
  rw [crossing_ofReal, if_neg notParallel]
  exact if_pos ⟨crosses.second_nonneg, atMostOne, inside⟩

/-- A ray reaches a point of a triangle at a parameter, in range of a bound. The weights
say which point it is. -/
structure Reaches (corners : Corners (Vec3 ℝ)) (ray : Ray ℝ) (bound : Exact) (lambda : ℝ)
    (weights : Vec3 ℝ) : Prop where
  positive : 0 < lambda
  before : real lambda < bound
  nonneg (axis : Axis) : 0 ≤ weights.get axis
  sum : weights.x + weights.y + weights.z = 1
  point (axis : Axis) : (ray.follow lambda).get axis =
    weights.x * corners.a.get axis + weights.y * corners.b.get axis +
      weights.z * corners.c.get axis

namespace Reaches

variable {corners : Corners (Vec3 ℝ)} {ray : Ray ℝ} {bound : Exact} {lambda : ℝ}
  {weights : Vec3 ℝ}

theorem first_eq (reaches : corners.Reaches ray bound lambda weights) :
    weights.x = 1 - weights.y - weights.z := by
  linarith [reaches.sum]

theorem crosses (reaches : corners.Reaches ray bound lambda weights) :
    corners.Crosses ray lambda weights.y weights.z where
  second_nonneg := reaches.nonneg .y
  third_nonneg := reaches.nonneg .z
  sum_le_one := by
    have nonneg : 0 ≤ weights.x := reaches.nonneg .x
    linarith [reaches.sum]
  point axis := reaches.first_eq ▸ reaches.point axis

theorem of_crosses {second third : ℝ} (positive : 0 < lambda) (before : real lambda < bound)
    (crosses : corners.Crosses ray lambda second third) :
    corners.Reaches ray bound lambda ⟨1 - second - third, second, third⟩ where
  positive := positive
  before := before
  nonneg axis := by
    cases axis with
    | x => exact (by linarith [crosses.sum_le_one] : 0 ≤ 1 - second - third)
    | y => exact crosses.second_nonneg
    | z => exact crosses.third_nonneg
  sum := by ring
  point := crosses.point

/-- A ray reaches a triangle at one parameter in one point, unless the determinant vanishes. -/
theorem unique (reaches : corners.Reaches ray bound lambda weights)
    (nonzero : corners.determinant ray ≠ 0) {otherLambda : ℝ} {otherWeights : Vec3 ℝ}
    (other : corners.Reaches ray bound otherLambda otherWeights) :
    otherLambda = lambda ∧ otherWeights = weights := by
  obtain ⟨isParameter, isSecond, isThird⟩ := reaches.crosses.eq_solution nonzero
  obtain ⟨otherParameter, otherSecond, otherThird⟩ := other.crosses.eq_solution nonzero
  have second : otherWeights.y = weights.y := otherSecond.trans isSecond.symm
  have third : otherWeights.z = weights.z := otherThird.trans isThird.symm
  have first : otherWeights.x = weights.x := by
    rw [other.first_eq, reaches.first_eq, second, third]
  exact ⟨otherParameter.trans isParameter.symm, Vec3.ext first second third⟩

/-- The parameter at which a ray reaches a triangle and the weights are those of the hit. -/
theorem meet (reaches : corners.Reaches ray bound lambda weights)
    (notParallel : ¬|corners.determinant ray| < 1e-14) :
    (ofReal corners).meet (.ofReal ray) bound = some ⟨real lambda, .ofReal weights⟩ := by
  have inRange : InRange (real lambda) bound :=
    ⟨zero_eq_real ▸ real_lt_real.mpr reaches.positive, reaches.before⟩
  have crossing := reaches.crosses.crossing notParallel
  rw [← reaches.first_eq] at crossing
  exact Option.filter_eq_some_iff.mpr ⟨crossing, decide_eq_true inRange⟩

end Reaches

/-- **A ray hits a triangle exactly when it is not parallel to it and reaches a point of it
in range, and the hit is that point. There is only one.** -/
theorem meet_eq_some_iff_reaches (corners : Corners (Vec3 ℝ)) (ray : Ray ℝ) (bound : Exact) :
    (∀ hit, (ofReal corners).meet (.ofReal ray) bound = some hit ↔
      parallelThreshold ≤ real |corners.determinant ray| ∧
        ∃ lambda weights, corners.Reaches ray bound lambda weights ∧
          hit = ⟨real lambda, .ofReal weights⟩) ∧
    (parallelThreshold ≤ real |corners.determinant ray| →
      ∀ lambda weights, corners.Reaches ray bound lambda weights →
        ∀ otherLambda otherWeights, corners.Reaches ray bound otherLambda otherWeights →
          otherLambda = lambda ∧ otherWeights = weights) := by
  rw [parallelThreshold_eq_real, real_le_real, ← not_lt]
  refine ⟨fun hit => ⟨fun found => ?_, ?_⟩, ?_⟩
  · obtain ⟨lambda, second, third, isHit, positive, before, crosses⟩ := crosses_of_meet found
    exact ⟨not_parallel_of_meet found, lambda, ⟨1 - second - third, second, third⟩,
      .of_crosses positive before crosses, isHit⟩
  · rintro ⟨notParallel, lambda, weights, reaches, rfl⟩
    exact reaches.meet notParallel
  · intro notParallel lambda weights reaches otherLambda otherWeights other
    exact reaches.unique (nonzero_of_not_parallel notParallel) other

/-- A ray along the third axis hits the corner of a triangle across it. -/
theorem meet_eq_some_iff_reaches_corner :
    (ofReal ⟨⟨0, 0, 2⟩, ⟨1, 0, 2⟩, ⟨0, 1, 2⟩⟩).meet (.ofReal ⟨⟨0, 0, 0⟩, ⟨0, 0, 1⟩⟩) infinity =
      some ⟨real 2, .ofReal ⟨1, 0, 0⟩⟩ := by
  refine ((meet_eq_some_iff_reaches _ _ _).1 _).mpr ⟨?_, 2, ⟨1, 0, 0⟩, ?_, rfl⟩
  · rw [parallelThreshold_eq_real, real_le_real]
    norm_num [determinant, Vec3.inner, Vec3.outer, Vec3.minus, Vec3.zipWith]
  · refine ⟨by norm_num, trivial, fun axis => ?_, by norm_num, fun axis => ?_⟩
    · cases axis <;> norm_num [Vec3.get]
    · rw [Ray.get_follow]
      cases axis <;> norm_num [Vec3.get]

/-- A box around the corners is around the point in which a ray crosses. -/
theorem Crosses.around {corners : Corners (Vec3 ℝ)} {ray : Ray ℝ} {lambda second third : ℝ}
    (crosses : corners.Crosses ray lambda second third) {box : Box Exact} (sound : box.Sound)
    (aroundA : box.Around corners.a) (aroundB : box.Around corners.b)
    (aroundC : box.Around corners.c) : box.Around (ray.follow lambda) := by
  obtain ⟨⟨lower, upper⟩, -, rfl⟩ := sound.finite_of_within aroundA
  rw [Box.around_finite_iff] at aroundA aroundB aroundC ⊢
  intro axis
  have first_nonneg : 0 ≤ 1 - second - third := by linarith [crosses.sum_le_one]
  obtain ⟨belowA, aboveA⟩ := aroundA axis
  obtain ⟨belowB, aboveB⟩ := aroundB axis
  obtain ⟨belowC, aboveC⟩ := aroundC axis
  rw [crosses.point axis]
  constructor
  · calc lower.get axis
        = (1 - second - third) * lower.get axis + second * lower.get axis +
            third * lower.get axis := by ring
      _ ≤ _ := add_le_add (add_le_add (mul_le_mul_of_nonneg_left belowA first_nonneg)
          (mul_le_mul_of_nonneg_left belowB crosses.second_nonneg))
          (mul_le_mul_of_nonneg_left belowC crosses.third_nonneg)
  · calc _ ≤ (1 - second - third) * upper.get axis + second * upper.get axis +
            third * upper.get axis :=
          add_le_add (add_le_add (mul_le_mul_of_nonneg_left aboveA first_nonneg)
            (mul_le_mul_of_nonneg_left aboveB crosses.second_nonneg))
            (mul_le_mul_of_nonneg_left aboveC crosses.third_nonneg)
      _ = upper.get axis := by ring

end Corners

end RayTracer
