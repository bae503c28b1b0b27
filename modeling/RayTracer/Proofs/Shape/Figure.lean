import RayTracer.Shape
import RayTracer.Proofs.Exact.Directions
import RayTracer.Proofs.Sphere
import RayTracer.Proofs.Triangle.Crossing

/-!
# Figures and their tangent planes

A figure is a sphere, a plane or a triangle with real coordinates. A ray hits it in a
point of its surface and across the surface (`Figure.meets_of_closest`). Unless the
reported normal is zero, it has length one and the whole surface lies behind the plane
across the normal in that point (`Figure.behind`): a sphere bulges away from its tangent
plane, a plane and a triangle lie in theirs. So a ray that stays in front of that plane
misses the figure.

Only a triangle can be hit where the normal is zero, because it is too small to have one.
It still lies in a plane, which a ray that hits it does not run along
(`Figure.normalAt_cases`).
-/

set_option autoImplicit false

namespace RayTracer

open Exact

/-- The vector across a triangle, as long as twice its area. -/
noncomputable def Corners.across (corners : Corners (Vec3 ℝ)) : Vec3 ℝ :=
  Vec3.outer (corners.b.minus corners.a) (corners.c.minus corners.a)

/-- Finite parameters are in range as real numbers are. -/
theorem Exact.inRange_real_iff {lambda bound : ℝ} :
    InRange (real lambda) (real bound) ↔ 0 < lambda ∧ lambda < bound := by
  rw [InRange, zero_eq_real, real_lt_real, real_lt_real]

theorem Exact.inRange_infinity_iff {lambda : ℝ} : InRange (real lambda) infinity ↔ 0 < lambda := by
  rw [InRange, zero_eq_real, real_lt_real]
  exact and_iff_left trivial

/-- A sphere of more than negligible size, a plane, or a triangle. -/
inductive Figure where
  | sphere (centre : Vec3 ℝ) (radius : ℝ) (thick : 1e-9 < radius)
  | plane (point normal : Vec3 ℝ)
  | triangle (corners : Corners (Vec3 ℝ)) (uvw : Corners (Vec3 Exact))

namespace Figure

/-- The shape of a figure. -/
noncomputable def shape : Figure → Shape Exact
  | sphere centre radius _ => .sphere (.around (.ofReal centre) (real radius))
  | plane point normal => .plane (.through (.ofReal point) (.ofReal normal))
  | triangle corners uvw => .triangle (.textured (.ofReal corners) uvw)

/-- A point lies on a sphere, on a plane, or on the plane of a triangle. -/
def Contains : Figure → Vec3 ℝ → Prop
  | sphere centre radius _, point =>
    Vec3.inner (point.minus centre) (point.minus centre) = radius * radius
  | plane through normal, point => Vec3.inner normal.direction (point.minus through) = 0
  | triangle corners _, point => Vec3.inner corners.across (point.minus corners.a) = 0

/-- A direction that does not run along the surface. -/
def Crossed : Figure → Vec3 ℝ → Prop
  | sphere _ _ _, heading => Vec3.inner heading heading ≠ 0
  | plane _ normal, heading => Vec3.inner normal.direction heading ≠ 0
  | triangle corners _, heading => Vec3.inner corners.across heading ≠ 0

/-- The normal reported for a hit at a parameter. That of a triangle turns towards the ray. -/
noncomputable def normalAt : Figure → Ray ℝ → ℝ → Vec3 ℝ
  | sphere centre _ _, ray, lambda => ((ray.follow lambda).minus centre).direction
  | plane _ normal, _, _ => normal.direction
  | triangle corners _, ray, _ =>
    if 0 < Vec3.inner ray.direction corners.across.direction then
      Vec3.times (-1) corners.across.direction
    else corners.across.direction

/-- A ray meets a figure at a parameter. -/
structure Meets (figure : Figure) (ray : Ray ℝ) (lambda : ℝ) : Prop where
  contains : figure.Contains (ray.follow lambda)
  crossed : figure.Crossed ray.direction

/-! ## Hits -/

theorem around_ofReal (centre : Vec3 ℝ) {radius : ℝ} (thick : 1e-9 < radius) :
    Sphere.around (.ofReal centre) (real radius) = ⟨.ofReal centre, real radius⟩ := by
  have positive : (0 : ℝ) ≤ radius := by linarith
  rw [Sphere.around_ofReal, max_eq_left positive]

theorem through_ofReal (point normal : Vec3 ℝ) :
    Plane.through (.ofReal point) (.ofReal normal) = ⟨.ofReal point, .ofReal normal.direction⟩ := by
  rw [Plane.through, Vec3.unit_ofReal_eq_direction]

theorem textured_ofReal (corners : Corners (Vec3 ℝ)) (uvw : Corners (Vec3 Exact)) :
    Triangle.textured (.ofReal corners) uvw =
      ⟨.ofReal corners, uvw, .ofReal corners.across.direction⟩ := by
  rw [Triangle.textured, Corners.areaVector, ← Vec3.unit_ofReal_eq_direction]
  simp only [Corners.ofReal, Corners.map, Vec3.ofReal_sub_ofReal, Vec3.cross_ofReal,
    Corners.across]

/-- Where the line of a ray passes through a plane. -/
theorem crossing_plane (point normal : Vec3 ℝ) (ray : Ray ℝ) :
    Plane.crossing ⟨.ofReal point, .ofReal normal⟩ (.ofReal ray) =
      if |Vec3.inner ray.direction normal| < 1e-9 then none
      else some (real (Vec3.inner (point.minus ray.origin) normal /
        Vec3.inner ray.direction normal)) := by
  simp only [Plane.crossing, Ray.ofReal, Vec3.ofReal_sub_ofReal, Vec3.dot_ofReal, abs_real,
    epsilon_eq_real, real_lt_real]
  by_cases level : |Vec3.inner ray.direction normal| < 1e-9
  · rw [if_pos level, if_pos level]
  · have steep : Vec3.inner ray.direction normal ≠ 0 := by
      rintro zero
      rw [zero, abs_zero] at level
      norm_num at level
    rw [if_neg level, if_neg level, real_div_real steep]

theorem crossing_plane_eq_some_iff {point normal : Vec3 ℝ} {ray : Ray ℝ} {found : Exact} :
    Plane.crossing ⟨.ofReal point, .ofReal normal⟩ (.ofReal ray) = some found ↔
      1e-9 ≤ |Vec3.inner ray.direction normal| ∧
        found = real (Vec3.inner (point.minus ray.origin) normal /
          Vec3.inner ray.direction normal) := by
  rw [crossing_plane]
  split
  · rename_i level
    exact iff_of_false nofun fun both => both.1.not_gt level
  · rename_i steep
    rw [Option.some.injEq, @eq_comm _ _ found, and_iff_right (not_lt.mp steep)]

/-- A ray that is not level with a plane covers its distance at one parameter. It hits the
plane there if that is in range. -/
theorem closest_through {point normal : Vec3 ℝ} {ray : Ray ℝ} {lambda : ℝ}
    (steep : 1e-9 ≤ |Vec3.inner ray.direction normal.direction|)
    (reaches : Vec3.inner (point.minus ray.origin) normal.direction =
      lambda * Vec3.inner ray.direction normal.direction) (bound : Exact) :
    (Plane.through (.ofReal point) (.ofReal normal)).closest (.ofReal ray) bound =
      if InRange (real lambda) bound then some ⟨real lambda, .ofReal normal.direction, 0⟩
      else none := by
  have nonzero : Vec3.inner ray.direction normal.direction ≠ 0 := by
    intro zero
    rw [zero, abs_zero] at steep
    norm_num at steep
  have isCrossing : Plane.crossing ⟨.ofReal point, .ofReal normal.direction⟩ (.ofReal ray) =
      some (real lambda) := by
    rw [crossing_plane_eq_some_iff, reaches, mul_div_cancel_right₀ _ nonzero]
    exact ⟨steep, rfl⟩
  rw [through_ofReal, Plane.closest, isCrossing]
  by_cases inRange : InRange (real lambda) bound <;> simp [Option.filter, inRange]

/-- The hit of a ray on a plane whose distance it covers at a parameter in range. -/
theorem closest_plane {point normal : Vec3 ℝ} {ray : Ray ℝ} {bound : Exact} {lambda : ℝ}
    (steep : 1e-9 ≤ |Vec3.inner ray.direction normal.direction|)
    (reaches : Vec3.inner (point.minus ray.origin) normal.direction =
      lambda * Vec3.inner ray.direction normal.direction)
    (positive : 0 < lambda) (below : real lambda < bound) :
    (Plane.through (.ofReal point) (.ofReal normal)).closest (.ofReal ray) bound =
      some ⟨real lambda, .ofReal normal.direction, 0⟩ := by
  have inRange : InRange (real lambda) bound := ⟨zero_eq_real ▸ real_lt_real.mpr positive, below⟩
  rw [closest_through steep reaches, if_pos inRange]

theorem inner_across (corners : Corners (Vec3 ℝ)) (ray : Ray ℝ) :
    Vec3.inner corners.across ray.direction = -corners.determinant ray := by
  simp only [Corners.across, Corners.determinant, Vec3.inner, Vec3.outer]
  ring

theorem across_of_crosses {corners : Corners (Vec3 ℝ)} {ray : Ray ℝ} {lambda second third : ℝ}
    (crosses : corners.Crosses ray lambda second third) :
    Vec3.inner corners.across ((ray.follow lambda).minus corners.a) = 0 := by
  have x := crosses.point .x
  have y := crosses.point .y
  have z := crosses.point .z
  simp only [Vec3.get] at x y z
  simp only [Corners.across, Vec3.inner, Vec3.outer, Vec3.minus, Vec3.zipWith, x, y, z]
  ring

/-- **A ray hits a figure in a point of its surface, and across it.** -/
theorem meets_of_closest {figure : Figure} {ray : Ray ℝ} {bound : Exact}
    {hit : SurfaceHit Exact}
    (found : figure.shape.closest (.ofReal ray) bound = .ok (some hit)) :
    ∃ lambda : ℝ, hit.lambda = real lambda ∧ 0 < lambda ∧ real lambda < bound ∧
      figure.Meets ray lambda ∧
      hit.normal = .ofReal (figure.normalAt ray lambda) := by
  cases figure with
  | sphere centre radius thick =>
    rw [shape, around_ofReal centre thick] at found
    obtain ⟨root, isRoot, rfl⟩ := Option.map_eq_some_iff.mp (Except.ok.inj found)
    obtain ⟨lambda, rfl, positive, below, nonzero, onSurface⟩ := Sphere.onSurface_of_root isRoot
    refine ⟨lambda, rfl, positive, below, ⟨onSurface, nonzero⟩, ?_⟩
    dsimp only
    rw [Ray.pointAt_ofReal, Vec3.ofReal_sub_ofReal, Vec3.unit_ofReal_eq_direction]
    rfl
  | plane point normal =>
    rw [shape, through_ofReal] at found
    obtain ⟨root, isRoot, rfl⟩ := Option.map_eq_some_iff.mp (Except.ok.inj found)
    obtain ⟨crosses, inRange⟩ := Option.filter_eq_some_iff.mp isRoot
    obtain ⟨positive, below⟩ := of_decide_eq_true inRange
    obtain ⟨steep, rfl⟩ := crossing_plane_eq_some_iff.mp crosses
    have nonzero : Vec3.inner ray.direction normal.direction ≠ 0 := by
      intro zero
      rw [zero, abs_zero] at steep
      norm_num at steep
    refine ⟨_, rfl, real_lt_real.mp (zero_eq_real ▸ positive), below, ⟨?_, ?_⟩, rfl⟩
    · rw [Contains, Vec3.inner_minus, Vec3.inner_follow, Vec3.inner_comm _ ray.direction,
        div_mul_cancel₀ _ nonzero, Vec3.inner_comm (point.minus _), Vec3.inner_minus]
      ring
    · rwa [Crossed, Vec3.inner_comm]
  | triangle corners uvw =>
    rw [shape, textured_ofReal] at found
    obtain ⟨triangleHit, met, rfl⟩ := Option.map_eq_some_iff.mp (Except.ok.inj found)
    obtain ⟨lambda, second, third, rfl, positive, below, crosses⟩ := Corners.crosses_of_meet met
    refine ⟨lambda, rfl, positive, below, ⟨across_of_crosses crosses, ?_⟩, ?_⟩
    · rw [Crossed, inner_across, neg_ne_zero]
      exact Corners.determinant_ne_zero_of_meet met
    · rw [Triangle.facingNormal]
      simp only [Ray.ofReal, Vec3.dot_ofReal, zero_eq_real, real_lt_real, normalAt]
      split
      · exact Vec3.neg_ofReal _
      · rfl

/-- Queries of a figure do not fault. -/
theorem closest_eq_none {figure : Figure} {ray : Ray ℝ} {bound : Exact}
    (missed : ∀ lambda : ℝ, 0 < lambda → real lambda < bound → ¬figure.Meets ray lambda) :
    figure.shape.closest (.ofReal ray) bound = .ok none := by
  cases answer : figure.shape.closest (.ofReal ray) bound with
  | error fault => cases figure <;> cases answer
  | ok found =>
    cases found with
    | none => rfl
    | some hit =>
      obtain ⟨lambda, -, positive, below, meets, -⟩ := meets_of_closest answer
      exact (missed lambda positive below meets).elim

/-! ## The tangent plane -/

theorem length_radial {centre : Vec3 ℝ} {radius : ℝ} (thick : 1e-9 < radius) {point : Vec3 ℝ}
    (contains : (sphere centre radius thick).Contains point) :
    (point.minus centre).length = radius := by
  have positive : (0 : ℝ) ≤ radius := by linarith
  rw [Vec3.length, contains, Real.sqrt_mul_self positive]

/-- In a point of a figure the normal has length one, or it is zero. Then the figure lies in
a plane, and rays that cross the figure cross this plane. -/
theorem normalAt_cases {figure : Figure} {ray : Ray ℝ} {lambda : ℝ}
    (meets : figure.Meets ray lambda) :
    let point := ray.follow lambda
    let normal := figure.normalAt ray lambda
    Vec3.inner normal normal = 1 ∨ normal = ⟨0, 0, 0⟩ ∧ ∃ across : Vec3 ℝ,
      (∀ other, figure.Contains other → Vec3.inner across (other.minus point) = 0) ∧
        ∀ heading, figure.Crossed heading → Vec3.inner across heading ≠ 0 := by
  intro point normal
  cases figure with
  | sphere centre radius thick =>
    exact .inl (Vec3.inner_direction_direction (length_radial thick meets.contains ▸ thick))
  | plane through across =>
    obtain ⟨-, -, isUnit⟩ | ⟨-, -, isZero⟩ := across.direction_cases
    · exact .inl isUnit
    · refine absurd ?_ meets.crossed
      rw [isZero, Vec3.inner_zero_left]
  | triangle corners uvw =>
    obtain ⟨-, -, isUnit⟩ | ⟨-, -, isZero⟩ := corners.across.direction_cases
    · left
      change Vec3.inner (normalAt _ _ _) (normalAt _ _ _) = 1
      rw [normalAt]
      split
      · rw [Vec3.inner_times, Vec3.times_inner, isUnit]
        norm_num
      · exact isUnit
    · right
      refine ⟨?_, corners.across, fun other onPlane => ?_, fun heading crossed => crossed⟩
      · change normalAt _ _ _ = _
        rw [normalAt, isZero, Vec3.inner_comm, Vec3.inner_zero_left, if_neg (lt_irrefl 0)]
      · exact Vec3.inner_minus_of_level meets.contains onPlane

/-- **A figure lies behind its tangent planes.** -/
theorem behind {figure : Figure} {ray : Ray ℝ} {lambda : ℝ} (meets : figure.Meets ray lambda)
    {other : Vec3 ℝ} (contains : figure.Contains other) :
    let point := ray.follow lambda
    Vec3.inner (figure.normalAt ray lambda) (other.minus point) ≤ 0 := by
  intro point
  cases figure with
  | sphere centre radius thick =>
    have positive : (0 : ℝ) < radius := by linarith
    have length := length_radial thick meets.contains
    have longEnough : 1e-9 < (point.minus centre).length := length ▸ thick
    have isUnit := Vec3.inner_direction_direction longEnough
    have here : Vec3.inner (point.minus centre).direction (point.minus centre) = radius :=
      (Vec3.inner_direction_self longEnough).trans length
    have there := Vec3.inner_le_of_inner_self_eq isUnit positive contains
    rw [Vec3.inner_minus] at here there
    rw [normalAt, Vec3.inner_minus]
    linarith
  | plane through across => exact (Vec3.inner_minus_of_level meets.contains contains).le
  | triangle corners uvw =>
    have level := Vec3.inner_minus_of_level meets.contains contains
    have flat : Vec3.inner corners.across.direction (other.minus point) = 0 := by
      rw [Vec3.direction, Vec3.times_inner, level, mul_zero]
    rw [normalAt]
    split
    · rw [Vec3.times_inner, flat, mul_zero]
    · exact flat.le

end Figure

/-- The normal reported for a triangle is on the side a ray comes from. -/
theorem Triangle.dot_facingNormal_nonpos (corners : Corners (Vec3 ℝ)) (uvw : Corners (Vec3 Exact))
    (heading : Vec3 ℝ) :
    (Vec3.ofReal heading).dot
      ((Triangle.textured (.ofReal corners) uvw).facingNormal (.ofReal heading)) ≤ 0 := by
  rw [Figure.textured_ofReal, facingNormal]
  simp only [Vec3.dot_ofReal, zero_eq_real, real_lt_real]
  split
  · rename_i fromBehind
    rw [Vec3.neg_ofReal, Vec3.dot_ofReal, real_le_real, Vec3.inner_times]
    linarith
  · rename_i fromFront
    rw [Vec3.dot_ofReal, real_le_real]
    exact not_lt.mp fromFront

end RayTracer
