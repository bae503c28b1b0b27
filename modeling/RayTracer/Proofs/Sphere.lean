import RayTracer.Sphere
import RayTracer.Proofs.Exact

/-!
# The roots of a sphere

The line of a ray passes through a sphere at two parameters or not at all
(`Sphere.roots`). They do not depend on the bound of a query, which matters only
for which of them is the first in range (`Sphere.root_eq`). In exact arithmetic the
line comes in no later than it goes out (`Sphere.near_le_far`).
-/

set_option autoImplicit false

namespace RayTracer

variable {S : Type} [Scalar S]

/-- The two parameters at which a line passes through a sphere. -/
structure Roots (S : Type) where
  /-- The parameter at which the line comes in. -/
  near : S
  /-- The parameter at which the line goes out. -/
  far : S

/-- The first of two parameters that is in range. -/
def Roots.first (roots : Roots S) (bound : S) : Option S :=
  if InRange roots.near bound then some roots.near
  else if InRange roots.far bound then some roots.far
  else none

theorem Roots.inRange_of_first {roots : Roots S} {bound lambda : S}
    (isFirst : roots.first bound = some lambda) : InRange lambda bound := by
  unfold first at isFirst
  split at isFirst
  · rename_i near
    exact Option.some.inj isFirst ▸ near
  · split at isFirst
    · rename_i far
      exact Option.some.inj isFirst ▸ far
    · cases isFirst

theorem Roots.eq_of_first {roots : Roots S} {bound lambda : S}
    (isFirst : roots.first bound = some lambda) : lambda = roots.near ∨ lambda = roots.far := by
  unfold first at isFirst
  split at isFirst
  · exact .inl (Option.some.inj isFirst).symm
  · split at isFirst
    · exact .inr (Option.some.inj isFirst).symm
    · cases isFirst

/-- Where the line of a ray passes through a sphere, if it does. -/
def Sphere.roots (sphere : Sphere S) (ray : Ray S) : Option (Roots S) :=
  let offset := sphere.centre - ray.origin
  let leading := ray.direction.normSquared
  let half := ray.direction.dot offset
  let discriminant :=
    half * half - leading * (offset.normSquared - sphere.radius * sphere.radius)
  if leading == 0 then none
  else if discriminant < 0 then none
  else some ⟨(half - Scalar.sqrt discriminant) / leading,
    (half + Scalar.sqrt discriminant) / leading⟩

/-- The bound matters only for which of the two roots is reported. -/
theorem Sphere.root_eq (sphere : Sphere S) (ray : Ray S) (bound : S) :
    sphere.root ray bound = (sphere.roots ray).bind fun roots => roots.first bound := by
  unfold root roots
  dsimp only
  split
  · rfl
  · split
    · rfl
    · rfl

/-! ## Exact arithmetic -/

namespace Sphere

open Exact

/-- The centre and the radius of a sphere are finite. -/
def IsFinite (sphere : Sphere Exact) : Prop :=
  sphere.centre.IsFinite ∧ ∃ radius, sphere.radius = real radius

/-- A negative radius counts as zero. -/
theorem around_ofReal (centre : Vec3 ℝ) (radius : ℝ) :
    around (.ofReal centre) (real radius) = ⟨.ofReal centre, real (max radius 0)⟩ := by
  rw [around, zero_eq_real, maxNum_real]

/-- The quadratic equation for a real ray and a real sphere. -/
theorem roots_ofReal (centre : Vec3 ℝ) (radius : ℝ) (ray : Ray ℝ) :
    let offset := Vec3.minus centre ray.origin
    let leading := Vec3.inner ray.direction ray.direction
    let half := Vec3.inner ray.direction offset
    let discriminant := half * half - leading * (Vec3.inner offset offset - radius * radius)
    roots ⟨.ofReal centre, real radius⟩ (.ofReal ray) =
      if leading = 0 ∨ discriminant < 0 then none
      else some ⟨real ((half - √discriminant) / leading),
        real ((half + √discriminant) / leading)⟩ := by
  intro offset leading half discriminant
  simp only [roots, Ray.ofReal, Vec3.ofReal_sub_ofReal, Vec3.normSquared, Vec3.dot_ofReal,
    real_mul_real, real_sub_real, zero_eq_real, real_beq_real, real_lt_real]
  change (if leading = 0 then none else if discriminant < 0 then none else
    some (Roots.mk ((real half - Scalar.sqrt (real discriminant)) / real leading)
      ((real half + Scalar.sqrt (real discriminant)) / real leading))) = _
  by_cases zero : leading = 0
  · rw [if_pos zero, if_pos (.inl zero)]
  · by_cases negative : discriminant < 0
    · rw [if_neg zero, if_pos negative, if_pos (.inr negative)]
    · rw [if_neg zero, if_neg negative, if_neg (not_or.mpr ⟨zero, negative⟩),
        sqrt_real (not_lt.mp negative), real_sub_real, real_add_real, real_div_real zero,
        real_div_real zero]

/-- The points of a ray on a sphere solve the quadratic equation. -/
theorem onSurface_iff (centre : Vec3 ℝ) (radius : ℝ) {ray : Ray ℝ}
    (nonzero : Vec3.inner ray.direction ray.direction ≠ 0) (lambda : ℝ) :
    let offset := Vec3.minus centre ray.origin
    let leading := Vec3.inner ray.direction ray.direction
    let half := Vec3.inner ray.direction offset
    let radial := Vec3.minus (ray.follow lambda) centre
    Vec3.inner radial radial = radius * radius ↔
      (lambda * leading - half) * (lambda * leading - half) =
        half * half - leading * (Vec3.inner offset offset - radius * radius) := by
  intro offset leading half radial
  have distance : Vec3.inner radial radial =
      lambda * lambda * leading - 2 * lambda * half + Vec3.inner offset offset := by
    simp only [radial, leading, half, offset, Vec3.inner, Vec3.minus, Vec3.zipWith, Ray.follow]
    ring
  rw [distance]
  constructor
  · intro solved
    linear_combination leading * solved
  · intro solved
    refine mul_left_cancel₀ nonzero ?_
    linear_combination solved

/-- A ray hits a sphere where its distance from the centre is the radius. -/
theorem onSurface_of_root {centre : Vec3 ℝ} {radius : ℝ} {ray : Ray ℝ} {bound found : Exact}
    (isRoot : root ⟨.ofReal centre, real radius⟩ (.ofReal ray) bound = some found) :
    ∃ lambda : ℝ, found = real lambda ∧ 0 < lambda ∧ real lambda < bound ∧
      Vec3.inner ray.direction ray.direction ≠ 0 ∧
      Vec3.inner (Vec3.minus (ray.follow lambda) centre) (Vec3.minus (ray.follow lambda) centre) =
        radius * radius := by
  rw [root_eq, roots_ofReal] at isRoot
  obtain ⟨roots, isRoots, isFirst⟩ := Option.bind_eq_some_iff.mp isRoot
  obtain ⟨positive, below⟩ := Roots.inRange_of_first isFirst
  split at isRoots
  · cases isRoots
  · rename_i proper
    obtain ⟨nonzero, notNegative⟩ := not_or.mp proper
    obtain rfl := Option.some.inj isRoots
    have square := Real.mul_self_sqrt (not_lt.mp notNegative)
    rcases Roots.eq_of_first isFirst with rfl | rfl
    all_goals
      refine ⟨_, rfl, real_lt_real.mp (zero_eq_real ▸ positive), below, nonzero, ?_⟩
      refine (onSurface_iff centre radius nonzero _).mpr ?_
      rw [div_mul_cancel₀ _ nonzero]
      linear_combination square

/-- A ray comes into a sphere no later than it goes out. -/
theorem near_le_far {sphere : Sphere Exact} (finite : sphere.IsFinite) {ray : Ray Exact}
    (rayFinite : ray.IsFinite) {found : Roots Exact} (isRoots : sphere.roots ray = some found) :
    found.near ≤ found.far := by
  obtain ⟨middle, size⟩ := sphere
  obtain ⟨⟨centre, rfl⟩, radius, rfl⟩ := finite
  obtain ⟨numbers, rfl⟩ := rayFinite.eq_ofReal
  rw [roots_ofReal] at isRoots
  split at isRoots
  · cases isRoots
  · rw [← Option.some.inj isRoots, real_le_real]
    have squares : 0 ≤ Vec3.inner numbers.direction numbers.direction :=
      add_nonneg (add_nonneg (mul_self_nonneg _) (mul_self_nonneg _)) (mul_self_nonneg _)
    refine div_le_div_of_nonneg_right ?_ squares
    exact (sub_le_self _ (Real.sqrt_nonneg _)).trans (le_add_of_nonneg_right (Real.sqrt_nonneg _))

end Sphere

end RayTracer
