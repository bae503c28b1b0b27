import RayTracer.Scene.Trace
import RayTracer.Proofs.Scene.Agreement
import RayTracer.Proofs.Shape.Figure

/-!
# Rays from and to the safe point

A mirrored ray starts slightly above the surface where a ray met it, in the direction of the
reported normal, and a shadow ray ends there. Between the safe point and a light that is
not below it, nothing of the same surface is in the way (`Scene.lit_of_above`).

A mirrored ray leaves a plane or a triangle for good when the ray came from the side of
the normal (`Figure.closest_mirrored_of_front`). The normal of a triangle is always on
that side. That of a plane is not: where a ray comes from behind, the safe point is on the
far side of the plane, and the mirrored ray comes back through it (`Shape.closest_mirrored`).
-/

set_option autoImplicit false

namespace RayTracer

open Exact

namespace Figure

variable {figure : Figure} {ray : Ray ℝ} {lambda : ℝ}

/-- The point slightly above a figure where a ray meets it. -/
noncomputable def lifted (figure : Figure) (ray : Ray ℝ) (lambda : ℝ) : Vec3 ℝ :=
  Vec3.plus (ray.follow lambda) (Vec3.times 1e-9 (figure.normalAt ray lambda))

/-- The direction of a ray after it was mirrored. -/
noncomputable def mirroredHeading (figure : Figure) (ray : Ray ℝ) (lambda : ℝ) : Vec3 ℝ :=
  (ray.direction.mirror (figure.normalAt ray lambda)).direction

section Hit

variable (number : Nat) {hit : SurfaceHit Exact} (isLambda : hit.lambda = real lambda)
  (isNormal : hit.normal = .ofReal (figure.normalAt ray lambda))
include isLambda isNormal

theorem safePoint_ofHit :
    (Intersection.ofHit (.ofReal ray) number hit).safePoint =
      .ofReal (figure.lifted ray lambda) := by
  rw [Intersection.safePoint, Intersection.ofHit, isLambda, isNormal, epsilon_eq_real,
    Ray.pointAt_ofReal, Vec3.real_smul_ofReal, Vec3.ofReal_add_ofReal]
  rfl

theorem mirrored_ofHit :
    (Intersection.ofHit (.ofReal ray) number hit).mirrored =
      .ofReal ⟨figure.lifted ray lambda, figure.mirroredHeading ray lambda⟩ := by
  rw [Intersection.mirrored, safePoint_ofHit number isLambda isNormal]
  change Ray.along _ ((Vec3.ofReal ray.direction).reflect hit.normal) = _
  rw [isNormal, Vec3.reflect_ofReal, Ray.along_ofReal]
  rfl

end Hit

/-- A ray misses a figure where it is in front of a tangent plane. Where the normal is zero,
it is enough that the ray is off every plane that it crosses. -/
theorem not_meets (meets : figure.Meets ray lambda) {further : Ray ℝ} {reach : ℝ}
    (front : Vec3.inner (figure.normalAt ray lambda) (figure.normalAt ray lambda) = 1 →
      0 < Vec3.inner (figure.normalAt ray lambda)
        ((further.follow reach).minus (ray.follow lambda)))
    (off : figure.normalAt ray lambda = ⟨0, 0, 0⟩ →
      ∀ across, Vec3.inner across further.direction ≠ 0 →
        Vec3.inner across ((further.follow reach).minus (ray.follow lambda)) ≠ 0) :
    ¬figure.Meets further reach := by
  intro again
  obtain isUnit | ⟨isZero, across, level, crosses⟩ := normalAt_cases meets
  · exact (behind meets again.contains).not_gt (front isUnit)
  · exact off isZero across (crosses _ again.crossed) (level _ again.contains)

/-! ## Mirrored rays -/

theorem inner_from_lifted (across heading : Vec3 ℝ) (reach : ℝ) :
    Vec3.inner across ((Ray.follow ⟨figure.lifted ray lambda, heading⟩ reach).minus
        (ray.follow lambda)) =
      1e-9 * Vec3.inner across (figure.normalAt ray lambda) +
        reach * Vec3.inner across heading := by
  rw [Vec3.inner_minus, Vec3.inner_follow, lifted, Vec3.inner_plus, Vec3.inner_times]
  ring

/-- **A ray mirrored in front of a figure does not hit it again.** -/
theorem closest_mirrored_of_front {bound : Exact} {hit : SurfaceHit Exact}
    (found : figure.shape.closest (.ofReal ray) bound = .ok (some hit))
    (front : (Vec3.ofReal ray.direction).dot hit.normal ≤ 0) (number : Nat) (further : Exact) :
    figure.shape.closest (Intersection.ofHit (.ofReal ray) number hit).mirrored further =
      .ok none := by
  obtain ⟨lambda, isLambda, -, -, meets, isNormal⟩ := meets_of_closest found
  rw [isNormal, Vec3.dot_ofReal, zero_eq_real, real_le_real] at front
  rw [mirrored_ofHit number isLambda isNormal]
  refine closest_eq_none fun reach positive _ => not_meets meets ?_ ?_
  · intro isUnit
    have outwards : 0 ≤
        Vec3.inner (figure.normalAt ray lambda) (figure.mirroredHeading ray lambda) := by
      rw [mirroredHeading, Vec3.direction, Vec3.inner_times, Vec3.inner_mirror isUnit]
      exact mul_nonneg (Vec3.stretch_nonneg _) (neg_nonneg.mpr front)
    have away := mul_nonneg positive.le outwards
    rw [inner_from_lifted, isUnit]
    linarith
  · intro isZero across crosses
    rw [inner_from_lifted, isZero, Vec3.inner_comm, Vec3.inner_zero_left, mul_zero, zero_add]
    exact mul_ne_zero positive.ne' crosses

end Figure

/-- A ray of length one that comes through a plane from behind comes back through it after it
was mirrored. -/
theorem Plane.closest_mirrored_of_behind {point normal : Vec3 ℝ} {ray : Ray ℝ}
    (isUnit : Vec3.inner ray.direction ray.direction = 1) {bound : Exact} {hit : SurfaceHit Exact}
    (found : (through (.ofReal point) (.ofReal normal)).closest (.ofReal ray) bound = some hit)
    (behind : 0 < Vec3.inner ray.direction normal.direction) (number : Nat) :
    (through (.ofReal point) (.ofReal normal)).closest
        (Intersection.ofHit (.ofReal ray) number hit).mirrored infinity =
      some ⟨real (1e-9 / Vec3.inner ray.direction normal.direction), .ofReal normal.direction,
        0⟩ := by
  have answered : (Figure.plane point normal).shape.closest (.ofReal ray) bound =
    .ok (some hit) := congrArg Except.ok found
  obtain ⟨lambda, isLambda, -, -, meets, isNormal⟩ := Figure.meets_of_closest answered
  have steep : 1e-9 ≤ |Vec3.inner ray.direction normal.direction| := by
    rw [Figure.through_ofReal] at found
    obtain ⟨root, isRoot, -⟩ := Option.map_eq_some_iff.mp found
    exact (Figure.crossing_plane_eq_some_iff.mp (Option.filter_eq_some_iff.mp isRoot).1).1
  have normalUnit : Vec3.inner normal.direction normal.direction = 1 := by
    obtain ⟨-, -, isUnit⟩ | ⟨-, -, isZero⟩ := normal.direction_cases
    · exact isUnit
    · rw [isZero, Vec3.inner_comm, Vec3.inner_zero_left] at behind
      exact (lt_irrefl 0 behind).elim
  have sameLength := (Vec3.inner_mirror_mirror normalUnit ray.direction).trans isUnit
  have isHeading : (Figure.plane point normal).mirroredHeading ray lambda =
      ray.direction.mirror normal.direction := Vec3.direction_of_isUnit sameLength
  have ascent : Vec3.inner (ray.direction.mirror normal.direction) normal.direction =
      -Vec3.inner ray.direction normal.direction :=
    (Vec3.inner_comm _ _).trans (Vec3.inner_mirror normalUnit _)
  have height : Vec3.inner (point.minus ((Figure.plane point normal).lifted ray lambda))
      normal.direction = -1e-9 := by
    have level : Vec3.inner normal.direction ((ray.follow lambda).minus point) = 0 := meets.contains
    rw [Vec3.inner_minus] at level
    rw [Vec3.inner_comm, Vec3.inner_minus, Figure.lifted, Vec3.inner_plus, Vec3.inner_times,
      Figure.normalAt, normalUnit]
    linarith
  rw [Figure.mirrored_ofHit number isLambda isNormal, isHeading]
  refine Figure.closest_plane ?_ ?_ (by positivity) trivial
  · rw [ascent, abs_neg]
    exact steep
  · rw [height, ascent, mul_neg, div_mul_cancel₀ _ behind.ne']

/-- **Where a mirrored ray meets the flat surface that it leaves.** It leaves a triangle for
good. It leaves a plane for good when the ray came from the side of the normal, and comes
back through it otherwise. -/
theorem Shape.closest_mirrored {ray : Ray ℝ}
    (isUnit : Vec3.inner ray.direction ray.direction = 1) (bound : Exact) (number : Nat) :
    (∀ corners uvw hit,
      let triangle : Shape Exact := .triangle (.textured (.ofReal corners) uvw)
      triangle.closest (.ofReal ray) bound = .ok (some hit) → ∀ further,
        triangle.closest (Intersection.ofHit (.ofReal ray) number hit).mirrored further =
          .ok none) ∧
    ∀ point normal hit,
      let plane : Shape Exact := .plane (.through (.ofReal point) (.ofReal normal))
      plane.closest (.ofReal ray) bound = .ok (some hit) →
        let descent := (Vec3.ofReal ray.direction).dot hit.normal
        plane.closest (Intersection.ofHit (.ofReal ray) number hit).mirrored infinity =
          .ok (if 0 < descent then some ⟨epsilon / descent, hit.normal, 0⟩ else none) := by
  constructor
  · intro corners uvw hit triangle found further
    have front : (Vec3.ofReal ray.direction).dot hit.normal ≤ 0 := by
      obtain ⟨triangleHit, -, rfl⟩ := Option.map_eq_some_iff.mp (Except.ok.inj found)
      exact Triangle.dot_facingNormal_nonpos corners uvw ray.direction
    have answered : (Figure.triangle corners uvw).shape.closest (.ofReal ray) bound =
      .ok (some hit) := found
    exact Figure.closest_mirrored_of_front answered front number further
  · intro point normal hit plane found descent
    have isNormal : hit.normal = .ofReal normal.direction := by
      obtain ⟨lambda, -, rfl⟩ := Option.map_eq_some_iff.mp (Except.ok.inj found)
      rw [Figure.through_ofReal]
    have isDescent : descent = real (Vec3.inner ray.direction normal.direction) := by
      rw [← Vec3.dot_ofReal, ← isNormal]
    by_cases behind : 0 < Vec3.inner ray.direction normal.direction
    · rw [isDescent, isNormal, zero_eq_real, if_pos (real_lt_real.mpr behind), epsilon_eq_real,
        real_div_real behind.ne']
      exact congrArg Except.ok
        (Plane.closest_mirrored_of_behind isUnit (Except.ok.inj found) behind number)
    · rw [isDescent, zero_eq_real, if_neg fun positive => behind (real_lt_real.mp positive)]
      have front : (Vec3.ofReal ray.direction).dot hit.normal ≤ 0 := by
        change descent ≤ 0
        rw [isDescent, zero_eq_real, real_le_real]
        exact not_lt.mp behind
      have answered : (Figure.plane point normal).shape.closest (.ofReal ray) bound =
        .ok (some hit) := found
      exact Figure.closest_mirrored_of_front answered front number infinity

/-- Rays from below the ground: one through a triangle, which is mirrored downwards and
leaves it, and one through the ground, which is mirrored downwards from above it. -/
theorem Shape.closest_mirrored_fromBelow :
    let ray : Ray ℝ := ⟨⟨0.25, 0.25, -1⟩, ⟨0, 0, 1⟩⟩
    let corners : Corners (Vec3 ℝ) := ⟨⟨0, 0, 0⟩, ⟨1, 0, 0⟩, ⟨0, 1, 0⟩⟩
    let triangle : Shape Exact := .triangle (.textured (.ofReal corners) ⟨0, 0, 0⟩)
    let ground : Shape Exact := .plane (.through (.ofReal ⟨0, 0, 0⟩) (.ofReal ⟨0, 0, 1⟩))
    Vec3.inner ray.direction ray.direction = 1 ∧
      (∃ hit, triangle.closest (.ofReal ray) infinity = .ok (some hit) ∧
        triangle.closest (Intersection.ofHit (.ofReal ray) 0 hit).mirrored infinity = .ok none) ∧
      ∃ hit, ground.closest (.ofReal ray) infinity = .ok (some hit) ∧
        ground.closest (Intersection.ofHit (.ofReal ray) 0 hit).mirrored infinity =
          .ok (some ⟨epsilon, hit.normal, 0⟩) := by
  intro ray corners triangle ground
  have isUnit : Vec3.inner ray.direction ray.direction = 1 := by norm_num [ray, Vec3.inner]
  obtain ⟨leaves, returns⟩ := closest_mirrored isUnit infinity 0
  have isDirection : Vec3.direction ⟨0, 0, 1⟩ = ⟨0, 0, 1⟩ :=
    Vec3.direction_of_isUnit (by norm_num [Vec3.inner])
  refine ⟨isUnit, ?_, ?_⟩
  · have crosses : (Corners.ofReal corners).meet (.ofReal ray) infinity =
        some ⟨real 1, ⟨real 0.5, real 0.25, real 0.25⟩⟩ := by
      have solved : corners.determinant ray = -1 ∧ corners.secondWeight ray = 0.25 ∧
          corners.thirdWeight ray = 0.25 ∧ corners.parameter ray = 1 := by
        norm_num [ray, corners, Corners.determinant, Corners.secondWeight, Corners.thirdWeight,
          Corners.parameter, Vec3.inner, Vec3.outer, Vec3.minus, Vec3.zipWith]
      have inRange : InRange (real 1) infinity := ⟨by simp, trivial⟩
      refine Option.filter_eq_some_iff.mpr ⟨?_, decide_eq_true inRange⟩
      rw [Corners.crossing_ofReal, solved.1, solved.2.1, solved.2.2.1, solved.2.2.2]
      norm_num
    have found : triangle.closest (.ofReal ray) infinity = .ok (some _) :=
      congrArg (fun met => Except.ok (Option.map _ met)) crosses
    exact ⟨_, found, leaves corners ⟨0, 0, 0⟩ _ found infinity⟩
  · have met := @Figure.closest_plane ⟨0, 0, 0⟩ ⟨0, 0, 1⟩ ray infinity 1
      (by norm_num [isDirection, ray, Vec3.inner])
      (by norm_num [isDirection, ray, Vec3.inner, Vec3.minus, Vec3.zipWith]) one_pos trivial
    have found : ground.closest (.ofReal ray) infinity = .ok (some _) := congrArg Except.ok met
    have again := returns ⟨0, 0, 0⟩ ⟨0, 0, 1⟩ _ found
    have descent : Vec3.inner ray.direction (Vec3.direction ⟨0, 0, 1⟩) = 1 := by
      norm_num [isDirection, ray, Vec3.inner]
    dsimp only at again
    rw [Vec3.dot_ofReal, descent, zero_eq_real, if_pos (real_lt_real.mpr one_pos),
      epsilon_eq_real, real_div_real one_ne_zero, div_one] at again
    exact ⟨_, found, again⟩

/-- A ray straight up through the ground. After it was mirrored, it comes back through the
ground. -/
theorem Plane.mirrored_returns :
    let ray : Ray ℝ := ⟨⟨0, 0, -1⟩, ⟨0, 0, 1⟩⟩
    let ground : Plane Exact := .through (.ofReal ⟨0, 0, 0⟩) (.ofReal ⟨0, 0, 1⟩)
    Vec3.inner ray.direction ray.direction = 1 ∧
      ∃ hit, ground.closest (.ofReal ray) infinity = some hit ∧
        ground.closest (Intersection.ofHit (.ofReal ray) 0 hit).mirrored infinity ≠ none := by
  intro ray ground
  have isUnit : Vec3.inner ray.direction ray.direction = 1 := by norm_num [ray, Vec3.inner]
  have isDirection : Vec3.direction ⟨0, 0, 1⟩ = ⟨0, 0, 1⟩ :=
    Vec3.direction_of_isUnit (by norm_num [Vec3.inner])
  have found := @Figure.closest_plane ⟨0, 0, 0⟩ ⟨0, 0, 1⟩ ray infinity 1
    (by norm_num [isDirection, ray, Vec3.inner])
    (by norm_num [isDirection, ray, Vec3.inner, Vec3.minus, Vec3.zipWith]) one_pos trivial
  have fromBehind : 0 < Vec3.inner ray.direction (Vec3.direction ⟨0, 0, 1⟩) := by
    norm_num [isDirection, ray, Vec3.inner]
  refine ⟨isUnit, _, found, ?_⟩
  rw [closest_mirrored_of_behind isUnit found fromBehind]
  exact Option.some_ne_none _

/-! ## Shadow rays -/

namespace Figure

variable {figure : Figure} {ray : Ray ℝ} {lambda : ℝ}

theorem reach_mul_stretch_lt_one {vector : Vec3 ℝ} {reach : ℝ} (below : reach < vector.length) :
    reach * vector.stretch < 1 := by
  obtain ⟨longEnough, isStretch, -⟩ | ⟨-, isStretch, -⟩ := vector.direction_cases
  · have positive : 0 < vector.length := lt_trans (by norm_num) longEnough
    rw [isStretch, ← div_eq_mul_inv, div_lt_one positive]
    exact below
  · rw [isStretch, mul_zero]
    exact one_pos

/-- A shadow ray ends in front of a figure, so it is in front all the way from a light that
is. -/
theorem inner_to_lifted (across position : Vec3 ℝ) (reach : ℝ) :
    let toSurface := (figure.lifted ray lambda).minus position
    Vec3.inner across ((Ray.follow ⟨position, toSurface.direction⟩ reach).minus
        (ray.follow lambda)) =
      1e-9 * Vec3.inner across (figure.normalAt ray lambda) +
        (1 - reach * toSurface.stretch) *
          Vec3.inner across (position.minus (figure.lifted ray lambda)) := by
  intro toSurface
  rw [Vec3.inner_minus, Vec3.inner_follow, Vec3.direction, Vec3.inner_times]
  simp only [toSurface, Vec3.inner_minus, lifted, Vec3.inner_plus, Vec3.inner_times]
  ring

/-- **No figure shadows a point slightly above itself from a light above its tangent plane.** -/
theorem closest_shadow {bound : Exact} {hit : SurfaceHit Exact}
    (found : figure.shape.closest (.ofReal ray) bound = .ok (some hit)) (number : Nat)
    (position : Vec3 ℝ)
    (above : 0 ≤ hit.normal.dot
      (.ofReal position - (Intersection.ofHit (.ofReal ray) number hit).safePoint)) :
    let toSurface := (Intersection.ofHit (.ofReal ray) number hit).safePoint - .ofReal position
    figure.shape.closest (.along (.ofReal position) toSurface) toSurface.norm = .ok none := by
  obtain ⟨lambda, isLambda, -, -, meets, isNormal⟩ := meets_of_closest found
  rw [safePoint_ofHit number isLambda isNormal, isNormal, Vec3.ofReal_sub_ofReal, Vec3.dot_ofReal,
    zero_eq_real, real_le_real] at above
  intro toSurface
  have isSegment : toSurface = .ofReal ((figure.lifted ray lambda).minus position) := by
    rw [← Vec3.ofReal_sub_ofReal, ← safePoint_ofHit number isLambda isNormal]
  rw [isSegment, Vec3.norm_ofReal, Ray.along_ofReal]
  refine closest_eq_none fun reach _ below => not_meets meets ?_ ?_
  all_goals have share := reach_mul_stretch_lt_one (real_lt_real.mp below)
  · intro isUnit
    rw [inner_to_lifted, isUnit]
    have inFront := mul_nonneg (sub_nonneg.mpr share.le) above
    linarith
  · intro isZero across crosses
    rw [inner_to_lifted, isZero, Vec3.inner_comm, Vec3.inner_zero_left, mul_zero, zero_add]
    rw [Vec3.direction, Vec3.inner_times, Vec3.inner_minus] at crosses
    refine mul_ne_zero (sub_pos.mpr share).ne' ?_
    rw [Vec3.inner_minus, ← neg_sub, neg_ne_zero]
    exact right_ne_zero_of_mul crosses

theorem any_eq_false {bound : Exact} {ray : Ray Exact}
    (missed : figure.shape.closest ray bound = .ok none) :
    figure.shape.any ray bound = .ok false := by
  have wellFormed : figure.shape.WellFormed := by cases figure <;> trivial
  obtain ⟨found, searched, answered, -⟩ := Shape.agree wellFormed ray bound
  rw [missed] at searched
  obtain rfl := Except.ok.inj searched
  exact answered

end Figure

/-- **A figure does not shadow itself.** In a scene of one sphere, plane or triangle, a light
that is not below the safe point of a hit adds its direct part, and this is counted. -/
theorem Scene.lit_of_above {figure : Figure} {ray : Ray ℝ} {bound : Exact}
    {hit : SurfaceHit Exact} (found : figure.shape.closest (.ofReal ray) bound = .ok (some hit))
    {light : Light Exact} (finite : light.position.IsFinite) :
    let intersection := Intersection.ofHit (.ofReal ray) 0 hit
    let toSurface := intersection.safePoint - light.position
    0 ≤ hit.normal.dot (light.position - intersection.safePoint) →
    figure.shape.closest (.along light.position toSurface) toSurface.norm = .ok none ∧
    figure.shape.any (.along light.position toSurface) toSurface.norm = .ok false ∧
    ∀ (scene : Scene Exact) (material : Material Exact),
      scene.renderables = [⟨figure.shape, material⟩] →
        scene.closest (.ofReal ray) bound = .ok (some intersection) ∧
        ∀ color, scene.addContribution material intersection color light =
          ⟨.ok (color + material.ambient intersection light + material.direct intersection light),
            ⟨0, 1⟩⟩ := by
  intro intersection toSurface above
  obtain ⟨position, isPosition⟩ := finite
  have missed : figure.shape.closest (.along light.position toSurface) toSurface.norm =
      .ok none := by
    have clear := Figure.closest_shadow found 0 position
    rw [← isPosition] at clear
    exact clear above
  have lit := Figure.any_eq_false missed
  refine ⟨missed, lit, fun scene material alone => ⟨?_, fun color => ?_⟩⟩
  · obtain ⟨lambda, isLambda, -, below, -⟩ := Figure.meets_of_closest found
    have closer : hit.lambda < bound := isLambda ▸ below
    rw [closest, alone]
    exact nearestFrom_cons (closer_of_some found closer) []
  · have searched : scene.shadowed intersection.safePoint light = .ok false := by
      rw [shadowed, any, alone, anyOf, anyOf]
      exact congrArg (· >>= fun hidden => if hidden then pure true else pure false) lit
    rw [addContribution, searched]
    rfl

/-- A lamp over the ground, seen from above. -/
theorem Scene.lit_of_above_ground :
    let ground : Figure := .plane ⟨0, 0, 0⟩ ⟨0, 0, 1⟩
    let ray : Ray ℝ := ⟨⟨0, 0, 1⟩, ⟨0, 0, -1⟩⟩
    let hit : SurfaceHit Exact := ⟨real 1, .ofReal ⟨0, 0, 1⟩, 0⟩
    let lamp : Light Exact := ⟨⟨.splat 1, .splat 1, .splat 1⟩, .ofReal ⟨3, 0, 1⟩⟩
    let intersection := Intersection.ofHit (.ofReal ray) 0 hit
    let toSurface := intersection.safePoint - lamp.position
    ground.shape.closest (.ofReal ray) infinity = .ok (some hit) ∧ lamp.position.IsFinite ∧
      0 ≤ hit.normal.dot (lamp.position - intersection.safePoint) ∧
      ground.shape.closest (.along lamp.position toSurface) toSurface.norm = .ok none ∧
      (addContribution { empty.addAll [⟨ground.shape, .standard⟩] with lights := [lamp] } .standard
        intersection 0 lamp).tally = ⟨0, 1⟩ := by
  intro ground ray hit lamp intersection toSurface
  have isDirection : Vec3.direction ⟨0, 0, 1⟩ = ⟨0, 0, 1⟩ :=
    Vec3.direction_of_isUnit (by norm_num [Vec3.inner])
  have met := @Figure.closest_plane ⟨0, 0, 0⟩ ⟨0, 0, 1⟩ ray infinity 1
    (by norm_num [isDirection, ray, Vec3.inner])
    (by norm_num [isDirection, ray, Vec3.inner, Vec3.minus, Vec3.zipWith]) one_pos trivial
  rw [isDirection] at met
  have found : ground.shape.closest (.ofReal ray) infinity = .ok (some hit) :=
    congrArg Except.ok met
  have finite : lamp.position.IsFinite := Vec3.isFinite_ofReal _
  have above : 0 ≤ hit.normal.dot (lamp.position - intersection.safePoint) := by
    have isSafe : intersection.safePoint =
        .ofReal (Vec3.plus (ray.follow 1) (Vec3.times 1e-9 ⟨0, 0, 1⟩)) := rfl
    rw [isSafe, Vec3.ofReal_sub_ofReal, Vec3.dot_ofReal, zero_eq_real, real_le_real]
    norm_num [ray, Ray.follow, Vec3.inner, Vec3.minus, Vec3.plus, Vec3.times, Vec3.map,
      Vec3.zipWith]
  obtain ⟨missed, -, lit⟩ := lit_of_above found finite above
  refine ⟨found, finite, above, missed, ?_⟩
  obtain ⟨-, added⟩ := lit { empty.addAll [⟨ground.shape, .standard⟩] with lights := [lamp] }
    .standard rfl
  rw [added]

end RayTracer
