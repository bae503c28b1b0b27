import RayTracer.Proofs.Sphere
import RayTracer.Proofs.Exact.Directions
import Mathlib.Order.Bounds.Basic

/-!
# The first point of a sphere on a ray

In exact arithmetic the two roots of a sphere are the parameters at which the line of a
ray is on its surface, and there are none when the line misses it
(`Sphere.onSurface_iff_of_roots`). The first root in range is therefore the least
parameter in range at which the ray reaches the surface, wherever the ray starts and
however long its direction is (`Sphere.root_eq_some_iff`). The normal there is the radius
through the point, divided by its length (`Sphere.closest_eq_some_iff_isLeast`).
-/

set_option autoImplicit false

namespace RayTracer

open Exact

theorem Vec3.inner_self_ne_zero {vector : Vec3 ℝ} (nonzero : vector ≠ ⟨0, 0, 0⟩) :
    inner vector vector ≠ 0 := by
  intro vanishes
  have x := mul_self_nonneg vector.x
  have y := mul_self_nonneg vector.y
  have z := mul_self_nonneg vector.z
  rw [inner] at vanishes
  refine nonzero (Vec3.ext ?_ ?_ ?_) <;> refine mul_self_eq_zero.mp ?_ <;> linarith

/-- The solutions of a quadratic equation whose square has been completed. -/
theorem sub_mul_self_eq_iff {leading half square lambda : ℝ} (nonzero : leading ≠ 0)
    (nonneg : 0 ≤ square) :
    (lambda * leading - half) * (lambda * leading - half) = square ↔
      lambda = (half - √square) / leading ∨ lambda = (half + √square) / leading := by
  rw [eq_div_iff nonzero, eq_div_iff nonzero, ← sub_eq_iff_eq_add', sub_eq_add_neg half,
    ← sub_eq_iff_eq_add', or_comm, ← mul_self_eq_mul_self_iff, Real.mul_self_sqrt nonneg]

/-- The first of two numbers in range is the least of them in range. -/
theorem Roots.first_eq_some_iff {near far : ℝ} (ordered : near ≤ far) {bound found : Exact} :
    Roots.first ⟨real near, real far⟩ bound = some found ↔
      ∃ lambda, IsLeast {lambda | InRange (real lambda) bound ∧ (lambda = near ∨ lambda = far)}
        lambda ∧ found = real lambda := by
  unfold first
  constructor
  · intro isFirst
    split at isFirst
    · rename_i nearInRange
      refine ⟨near, ⟨⟨nearInRange, .inl rfl⟩, ?_⟩, (Option.some.inj isFirst).symm⟩
      rintro lambda ⟨-, rfl | rfl⟩
      · exact le_rfl
      · exact ordered
    · rename_i nearOutside
      split at isFirst
      · rename_i farInRange
        refine ⟨far, ⟨⟨farInRange, .inr rfl⟩, ?_⟩, (Option.some.inj isFirst).symm⟩
        rintro lambda ⟨inRange, rfl | rfl⟩
        · exact absurd inRange nearOutside
        · exact le_rfl
      · cases isFirst
  · rintro ⟨lambda, ⟨⟨inRange, isRoot⟩, least⟩, rfl⟩
    split
    · rename_i nearInRange
      have before : lambda ≤ near := least ⟨nearInRange, .inl rfl⟩
      obtain rfl | rfl := isRoot
      · rfl
      · rw [le_antisymm ordered before]
    · rename_i nearOutside
      obtain rfl | rfl := isRoot
      · exact absurd inRange nearOutside
      · exact if_pos inRange

theorem Roots.isSome_first_iff {near far : ℝ} {bound : Exact} :
    (Roots.first ⟨real near, real far⟩ bound).isSome ↔
      ∃ lambda, InRange (real lambda) bound ∧ (lambda = near ∨ lambda = far) := by
  unfold first
  split
  · rename_i nearInRange
    exact iff_of_true rfl ⟨near, nearInRange, .inl rfl⟩
  · rename_i nearOutside
    split
    · rename_i farInRange
      exact iff_of_true rfl ⟨far, farInRange, .inr rfl⟩
    · rename_i farOutside
      refine iff_of_false nofun ?_
      rintro ⟨lambda, inRange, rfl | rfl⟩
      · exact nearOutside inRange
      · exact farOutside inRange

namespace Sphere

/-- The parameters in range at which a ray is at the distance of a radius from a centre. -/
def reached (centre : Vec3 ℝ) (radius : ℝ) (ray : Ray ℝ) (bound : Exact) : Set ℝ :=
  {lambda | InRange (real lambda) bound ∧
    Vec3.inner ((ray.follow lambda).minus centre) ((ray.follow lambda).minus centre) =
      radius * radius}

section Quadratic

variable {centre : Vec3 ℝ} {radius : ℝ} {ray : Ray ℝ}
  (nonzero : Vec3.inner ray.direction ray.direction ≠ 0)
include nonzero

/-- A line without roots misses the surface. -/
theorem reached_eq_empty_of_roots
    (noRoots : roots ⟨.ofReal centre, real radius⟩ (.ofReal ray) = none) (bound : Exact) :
    reached centre radius ray bound = ∅ := by
  rw [roots_ofReal] at noRoots
  split at noRoots
  · rename_i degenerate
    have negative := degenerate.resolve_left nonzero
    refine Set.eq_empty_of_forall_notMem ?_
    rintro lambda ⟨-, onSurface⟩
    have square := (onSurface_iff centre radius nonzero lambda).mp onSurface
    exact negative.not_ge (square ▸ mul_self_nonneg _)
  · cases noRoots

/-- The roots are the parameters at which the line is on the surface. -/
theorem onSurface_iff_of_roots {found : Roots Exact}
    (isRoots : roots ⟨.ofReal centre, real radius⟩ (.ofReal ray) = some found) :
    ∃ near far : ℝ, found = ⟨real near, real far⟩ ∧ near ≤ far ∧ ∀ lambda : ℝ,
      Vec3.inner ((ray.follow lambda).minus centre) ((ray.follow lambda).minus centre) =
        radius * radius ↔ lambda = near ∨ lambda = far := by
  have ordered := near_le_far ⟨Vec3.isFinite_ofReal centre, radius, rfl⟩
    (Ray.isFinite_ofReal ray) isRoots
  rw [roots_ofReal] at isRoots
  split at isRoots
  · cases isRoots
  · rename_i proper
    have nonneg := not_lt.mp (not_or.mp proper).2
    obtain rfl := Option.some.inj isRoots
    exact ⟨_, _, rfl, real_le_real.mp ordered, fun lambda =>
      (onSurface_iff centre radius nonzero lambda).trans (sub_mul_self_eq_iff nonzero nonneg)⟩

/-- **A sphere is hit at the least parameter at which the ray reaches its surface.** -/
theorem root_eq_some_iff {bound found : Exact} :
    root ⟨.ofReal centre, real radius⟩ (.ofReal ray) bound = some found ↔
      ∃ lambda, IsLeast (reached centre radius ray bound) lambda ∧ found = real lambda := by
  rw [root_eq]
  cases isRoots : roots ⟨.ofReal centre, real radius⟩ (.ofReal ray) with
  | none =>
    rw [reached_eq_empty_of_roots nonzero isRoots]
    exact iff_of_false nofun fun ⟨_, isLeast, _⟩ => isLeast.1
  | some roots =>
    obtain ⟨near, far, rfl, ordered, onSurface⟩ := onSurface_iff_of_roots nonzero isRoots
    simp only [Option.bind_some, Roots.first_eq_some_iff ordered, reached, onSurface]

/-- A sphere is hit whenever the ray reaches its surface in range. -/
theorem isSome_root_iff {bound : Exact} :
    (root ⟨.ofReal centre, real radius⟩ (.ofReal ray) bound).isSome ↔
      (reached centre radius ray bound).Nonempty := by
  rw [root_eq]
  cases isRoots : roots ⟨.ofReal centre, real radius⟩ (.ofReal ray) with
  | none =>
    rw [reached_eq_empty_of_roots nonzero isRoots]
    exact iff_of_false nofun Set.not_nonempty_empty
  | some roots =>
    obtain ⟨near, far, rfl, -, onSurface⟩ := onSurface_iff_of_roots nonzero isRoots
    simp only [Option.bind_some, Roots.isSome_first_iff, reached, onSurface]
    rfl

end Quadratic

/-- The direction of a vector whose length is known. -/
theorem unit_of_inner_self {vector : Vec3 ℝ} {radius : ℝ} (nonneg : 0 ≤ radius)
    (length : Vec3.inner vector vector = radius * radius) :
    (Vec3.ofReal vector).unit =
      if epsilon < real radius then Vec3.ofReal vector / real radius else 0 := by
  have norm : (Vec3.ofReal vector).norm = real radius := by
    rw [Vec3.norm_ofReal, Vec3.length, length, Real.sqrt_mul_self nonneg]
  rw [Vec3.unit, norm]

/-- **A sphere is hit exactly when the ray reaches its surface in range, at the least
parameter at which it does.** The radius is the given one, or zero for a negative one. The
normal is the vector from the centre to the point divided by the radius, and zero for a
sphere of negligible size. -/
theorem closest_eq_some_iff_isLeast (centre : Vec3 ℝ) (radius : ℝ) {ray : Ray ℝ}
    (nonzero : ray.direction ≠ ⟨0, 0, 0⟩) (bound : Exact) :
    let sphere := around (.ofReal centre) (real radius)
    let size := max radius 0
    let parameters := {lambda : ℝ | 0 < lambda ∧ real lambda < bound ∧
      Vec3.inner ((ray.follow lambda).minus centre) ((ray.follow lambda).minus centre) =
        size * size}
    sphere.radius = real size ∧
    ((sphere.closest (.ofReal ray) bound).isSome ↔ parameters.Nonempty) ∧
    ∀ hit, sphere.closest (.ofReal ray) bound = some hit ↔
      ∃ lambda, IsLeast parameters lambda ∧ hit.lambda = real lambda ∧
        hit.normal =
          (if epsilon < real size then
            (Vec3.ofReal (ray.follow lambda) - .ofReal centre) / real size
          else 0) ∧
        hit.uvw = 0 := by
  intro sphere size parameters
  have isSphere : sphere = ⟨.ofReal centre, real size⟩ := around_ofReal centre radius
  have isReached : parameters = reached centre size ray bound := by
    ext lambda
    simp only [parameters, reached, InRange, zero_eq_real, real_lt_real, Set.mem_ofPred_eq,
      and_assoc]
  have nonneg : 0 ≤ size := le_max_right radius 0
  have direction := Vec3.inner_self_ne_zero nonzero
  rw [isSphere, isReached]
  refine ⟨rfl, ?_, fun hit => ?_⟩
  · rw [closest, Option.isSome_map]
    exact isSome_root_iff direction
  · have normal {lambda : ℝ} (isReached : lambda ∈ reached centre size ray bound) :
        ((Ray.ofReal ray).pointAt (real lambda) - .ofReal centre).unit =
          if epsilon < real size then
            (Vec3.ofReal (ray.follow lambda) - .ofReal centre) / real size
          else 0 := by
      rw [Ray.pointAt_ofReal, Vec3.ofReal_sub_ofReal]
      exact unit_of_inner_self nonneg isReached.2
    rw [closest, Option.map_eq_some_iff]
    constructor
    · rintro ⟨found, isRoot, rfl⟩
      obtain ⟨lambda, isLeast, rfl⟩ := (root_eq_some_iff direction).mp isRoot
      exact ⟨lambda, isLeast, rfl, normal isLeast.1, rfl⟩
    · rintro ⟨lambda, isLeast, isLambda, isNormal, isUvw⟩
      refine ⟨real lambda, (root_eq_some_iff direction).mpr ⟨lambda, isLeast, rfl⟩, ?_⟩
      exact SurfaceHit.ext isLambda.symm ((normal isLeast.1).trans isNormal.symm) isUvw.symm

/-- A ray from inside a sphere, whose direction has length two, hits the sphere where it
goes out. -/
theorem closest_eq_some_iff_isLeast_inside :
    let ray : Ray ℝ := ⟨⟨0, 0, 1⟩, ⟨0, 0, 2⟩⟩
    ray.direction ≠ ⟨0, 0, 0⟩ ∧
      ∃ hit, (around (.ofReal ⟨0, 0, 0⟩) (real 2)).closest (.ofReal ray) infinity = some hit ∧
        hit.lambda = real (1 / 2) := by
  intro ray
  have nonzero : ray.direction ≠ ⟨0, 0, 0⟩ := by
    intro vanishes
    have z : (2 : ℝ) = 0 := congrArg Vec3.z vanishes
    norm_num at z
  obtain ⟨-, -, hits⟩ := closest_eq_some_iff_isLeast ⟨0, 0, 0⟩ 2 nonzero infinity
  refine ⟨nonzero, ⟨real (1 / 2), _, 0⟩, (hits _).mpr ⟨1 / 2, ⟨?_, ?_⟩, rfl, rfl, rfl⟩, rfl⟩
  · refine ⟨by norm_num, trivial, ?_⟩
    norm_num [ray, Ray.follow, Vec3.minus, Vec3.inner, Vec3.zipWith]
  · rintro lambda ⟨positive, -, onSurface⟩
    norm_num [ray, Ray.follow, Vec3.minus, Vec3.inner, Vec3.zipWith] at onSurface
    nlinarith

end Sphere

end RayTracer
