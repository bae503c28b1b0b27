import RayTracer.Proofs.Exact.Multiples

/-!
# Real vectors and their directions

Finite vectors of exact scalars are added, scaled and normalised as vectors of real
numbers are. The direction of a real vector is a multiple of it that is not negative
(`Vec3.direction`): it has length one, or it is zero because the vector is too short
(`Vec3.direction_cases`).

Inner products are computed with their rules for sums and multiples, without reference
to components.
-/

set_option autoImplicit false

namespace RayTracer

open Exact

theorem Exact.two_eq_real : (2 : Exact) = real 2 := congrArg real Nat.cast_ofNat

namespace Vec3

/-- The sum of two real vectors. -/
noncomputable def plus (first second : Vec3 ℝ) : Vec3 ℝ := zipWith (· + ·) first second

/-- A multiple of a real vector. -/
noncomputable def times (factor : ℝ) (vector : Vec3 ℝ) : Vec3 ℝ := vector.map (factor * ·)

/-- The length of a real vector. -/
noncomputable def length (vector : Vec3 ℝ) : ℝ := √(inner vector vector)

/-- The factor that gives a real vector length one, or zero for a vector that is too short. -/
noncomputable def stretch (vector : Vec3 ℝ) : ℝ :=
  if 1e-9 < vector.length then vector.length⁻¹ else 0

/-- The direction of a real vector. -/
noncomputable def direction (vector : Vec3 ℝ) : Vec3 ℝ := times vector.stretch vector

/-! ## Inner products -/

section Inner

variable (first second third : Vec3 ℝ) (factor : ℝ)

theorem inner_comm : inner first second = inner second first := by
  simp only [inner]
  ring

theorem inner_plus : inner first (plus second third) = inner first second + inner first third := by
  simp only [inner, plus, zipWith]
  ring

theorem inner_minus :
    inner first (minus second third) = inner first second - inner first third := by
  simp only [inner, minus, zipWith]
  ring

theorem inner_minus_of_level {across base point other : Vec3 ℝ}
    (pointLevel : inner across (minus point base) = 0)
    (otherLevel : inner across (minus other base) = 0) : inner across (minus other point) = 0 := by
  rw [inner_minus] at *
  linarith

theorem inner_times : inner first (times factor second) = factor * inner first second := by
  simp only [inner, times, map]
  ring

theorem times_inner : inner (times factor first) second = factor * inner first second := by
  rw [inner_comm, inner_times, inner_comm]

theorem inner_follow (ray : Ray ℝ) (lambda : ℝ) :
    inner first (ray.follow lambda) =
      inner first ray.origin + lambda * inner first ray.direction := by
  simp only [inner, Ray.follow, zipWith]
  ring

theorem inner_self_nonneg : 0 ≤ inner first first :=
  add_nonneg (add_nonneg (mul_self_nonneg _) (mul_self_nonneg _)) (mul_self_nonneg _)

theorem inner_zero_left : inner ⟨0, 0, 0⟩ first = 0 := by
  simp only [inner]
  ring

theorem inner_outer_left : inner first (outer first second) = 0 := by
  simp only [inner, outer]
  ring

theorem inner_outer_right : inner second (outer first second) = 0 := by
  simp only [inner, outer]
  ring

/-- Lagrange's identity. -/
theorem inner_outer_outer :
    inner (outer first second) (outer first second) =
      inner first first * inner second second - inner first second ^ 2 := by
  simp only [inner, outer]
  ring

end Inner

theorem length_ne_zero {vector : Vec3 ℝ} (longEnough : 1e-9 < vector.length) :
    vector.length ≠ 0 := by
  have positive : (0 : ℝ) < 1e-9 := by norm_num
  exact (positive.trans longEnough).ne'

theorem length_mul_length (vector : Vec3 ℝ) : vector.length * vector.length = inner vector vector :=
  Real.mul_self_sqrt (inner_self_nonneg vector)

/-- A vector no longer than a radius reaches no farther than the radius in any direction. -/
theorem inner_le_of_inner_self_eq {normal vector : Vec3 ℝ} (isUnit : inner normal normal = 1)
    {radius : ℝ} (positive : 0 < radius) (onSphere : inner vector vector = radius * radius) :
    inner normal vector ≤ radius := by
  have apart := inner_self_nonneg (minus vector (times radius normal))
  have square : inner (minus vector (times radius normal)) (minus vector (times radius normal)) =
      2 * radius * (radius - inner normal vector) := by
    rw [inner_minus, inner_comm _ vector, inner_comm _ (times radius normal), inner_minus,
      inner_minus, inner_times, times_inner, times_inner, inner_times, inner_comm vector normal,
      isUnit, onSphere]
    ring
  rw [square] at apart
  have factor : 0 < 2 * radius := by positivity
  linarith [nonneg_of_mul_nonneg_right apart factor]

/-! ## Directions -/

theorem stretch_nonneg (vector : Vec3 ℝ) : 0 ≤ vector.stretch := by
  rw [stretch]
  split
  · exact inv_nonneg.mpr (Real.sqrt_nonneg _)
  · exact le_rfl

theorem inner_direction_direction {vector : Vec3 ℝ} (longEnough : 1e-9 < vector.length) :
    inner vector.direction vector.direction = 1 := by
  have nonzero := length_ne_zero longEnough
  rw [direction, inner_times, times_inner, stretch, if_pos longEnough, ← length_mul_length]
  field_simp

theorem inner_direction_self {vector : Vec3 ℝ} (longEnough : 1e-9 < vector.length) :
    inner vector.direction vector = vector.length := by
  have nonzero := length_ne_zero longEnough
  rw [direction, times_inner, stretch, if_pos longEnough, ← length_mul_length]
  field_simp

/-- A vector is a multiple of its direction, which has length one, or it is too short to
have one. -/
theorem direction_cases (vector : Vec3 ℝ) :
    (1e-9 < vector.length ∧ vector.stretch = vector.length⁻¹ ∧
        inner vector.direction vector.direction = 1) ∨
      (vector.length ≤ 1e-9 ∧ vector.stretch = 0 ∧ vector.direction = ⟨0, 0, 0⟩) := by
  by_cases longEnough : 1e-9 < vector.length
  · have isStretch : vector.stretch = vector.length⁻¹ := if_pos longEnough
    exact .inl ⟨longEnough, isStretch, inner_direction_direction longEnough⟩
  · have isStretch : vector.stretch = 0 := if_neg longEnough
    refine .inr ⟨not_lt.mp longEnough, isStretch, ?_⟩
    rw [direction, isStretch]
    simp only [times, map, zero_mul]

theorem direction_of_isUnit {vector : Vec3 ℝ} (isUnit : inner vector vector = 1) :
    vector.direction = vector := by
  have one : vector.length = 1 := by rw [length, isUnit, Real.sqrt_one]
  have isStretch : vector.stretch = 1 := by
    rw [stretch, one]
    norm_num
  rw [direction, isStretch]
  simp only [times, map, one_mul]

/-- A multiple of a vector of length one is as long as the factor. -/
theorem length_times_of_isUnit {vector : Vec3 ℝ} (isUnit : inner vector vector = 1) {factor : ℝ}
    (nonneg : 0 ≤ factor) : (times factor vector).length = factor := by
  rw [length, times_inner, inner_times, isUnit, mul_one, Real.sqrt_mul_self nonneg]

theorem direction_times_of_isUnit {vector : Vec3 ℝ} (isUnit : inner vector vector = 1) {factor : ℝ}
    (longEnough : 1e-9 < factor) : (times factor vector).direction = vector := by
  have positive : 0 < factor := by linarith
  have isStretch : (times factor vector).stretch = factor⁻¹ := by
    rw [stretch, length_times_of_isUnit isUnit positive.le, if_pos longEnough]
  rw [direction, isStretch]
  simp only [times, map, inv_mul_cancel_left₀ positive.ne']

/-! ## Mirror images -/

/-- The mirror image of a real vector in the plane with a given unit normal. -/
noncomputable def mirror (vector normal : Vec3 ℝ) : Vec3 ℝ :=
  minus vector (times (2 * inner vector normal) normal)

section Mirror

variable {normal : Vec3 ℝ} (isUnit : inner normal normal = 1)
include isUnit

theorem inner_mirror (vector : Vec3 ℝ) :
    inner normal (mirror vector normal) = -inner vector normal := by
  rw [mirror, inner_minus, inner_times, isUnit, inner_comm normal]
  ring

theorem inner_mirror_mirror (vector : Vec3 ℝ) :
    inner (mirror vector normal) (mirror vector normal) = inner vector vector := by
  have across : inner (mirror vector normal) normal = -inner vector normal :=
    (inner_comm _ _).trans (inner_mirror isUnit vector)
  have along : inner (mirror vector normal) vector =
      inner vector vector - 2 * inner vector normal * inner vector normal := by
    rw [inner_comm, mirror, inner_minus, inner_times]
  calc inner (mirror vector normal) (mirror vector normal)
      = inner (mirror vector normal) vector -
          2 * inner vector normal * inner (mirror vector normal) normal := by
        rw [mirror, inner_minus, inner_times]
    _ = inner vector vector := by
        rw [along, across]
        ring

end Mirror

/-! ## Finite vectors of exact scalars -/

theorem ofReal_add_ofReal (first second : Vec3 ℝ) :
    ofReal first + ofReal second = ofReal (plus first second) := rfl

theorem real_smul_ofReal (factor : ℝ) (vector : Vec3 ℝ) :
    Exact.real factor • ofReal vector = ofReal (times factor vector) := rfl

theorem neg_ofReal (vector : Vec3 ℝ) : -ofReal vector = ofReal (times (-1) vector) := by
  refine ext_get fun axis => ?_
  cases axis <;> exact congrArg real (neg_one_mul _).symm

theorem ofReal_zero : ofReal ⟨0, 0, 0⟩ = 0 := by
  refine ext_get fun axis => ?_
  rw [get_zero, zero_eq_real]
  cases axis <;> rfl

theorem ofReal_injective : Function.Injective ofReal := by
  intro first second same
  refine ext_get fun axis => ?_
  have component := congrArg (fun vector => vector.get axis) same
  simpa only [get_ofReal, Exact.real.injEq] using component

theorem norm_ofReal (vector : Vec3 ℝ) : (ofReal vector).norm = .real vector.length := by
  rw [norm, normSquared, dot_ofReal, sqrt_real (inner_self_nonneg vector)]
  rfl

/-- Real vectors of length one are those with a square of one. -/
theorem norm_eq_one_iff {vector : Vec3 ℝ} : (ofReal vector).norm = 1 ↔ inner vector vector = 1 := by
  rw [norm_ofReal, one_eq_real, Exact.real.injEq, length, Real.sqrt_eq_one]

theorem unit_ofReal_eq_direction (vector : Vec3 ℝ) :
    (ofReal vector).unit = ofReal vector.direction := by
  rw [unit, norm_ofReal, epsilon_eq_real]
  simp only [real_lt_real]
  obtain ⟨longEnough, isStretch, -⟩ | ⟨short, isStretch, isZero⟩ := vector.direction_cases
  · have nonzero := length_ne_zero longEnough
    refine (if_pos longEnough).trans (ext_get fun axis => ?_)
    rw [get_div, get_ofReal, get_ofReal, real_div_real nonzero, direction, isStretch]
    cases axis <;> exact congrArg real (by simp only [times, map, get]; ring)
  · rw [if_neg short.not_gt, isZero, ofReal_zero]

/-- A vector of length one is its own direction. -/
theorem unit_ofReal {vector : Vec3 ℝ} (isUnit : inner vector vector = 1) :
    (ofReal vector).unit = ofReal vector := by
  rw [unit_ofReal_eq_direction, direction_of_isUnit isUnit]

/-- The direction of a vector is level with what the vector is level with. -/
theorem dot_unit_eq_zero {vector edge : Vec3 ℝ} (level : (ofReal vector).dot (ofReal edge) = 0) :
    (ofReal vector).unit.dot (ofReal edge) = 0 := by
  rw [dot_ofReal, zero_eq_real, Exact.real.injEq] at level
  rw [unit_ofReal_eq_direction, dot_ofReal, direction, times_inner, level, mul_zero, zero_eq_real]

theorem reflect_ofReal (vector normal : Vec3 ℝ) :
    (ofReal vector).reflect (ofReal normal) = ofReal (mirror vector normal) := by
  rw [mirror, reflect, dot_ofReal, two_eq_real, real_mul_real, real_smul_ofReal, ofReal_sub_ofReal]

namespace IsFinite

variable {first second : Vec3 Exact}

theorem sub (finite : first.IsFinite) (other : second.IsFinite) : (first - second).IsFinite := by
  obtain ⟨vector, rfl⟩ := finite
  obtain ⟨offset, rfl⟩ := other
  exact ⟨_, ofReal_sub_ofReal _ _⟩

theorem neg (finite : first.IsFinite) : (-first).IsFinite := by
  obtain ⟨vector, rfl⟩ := finite
  exact ⟨_, neg_ofReal vector⟩

theorem cross (finite : first.IsFinite) (other : second.IsFinite) :
    (first.cross second).IsFinite := by
  obtain ⟨vector, rfl⟩ := finite
  obtain ⟨across, rfl⟩ := other
  exact ⟨_, cross_ofReal _ _⟩

theorem unit (finite : first.IsFinite) : first.unit.IsFinite := by
  obtain ⟨vector, rfl⟩ := finite
  exact ⟨_, unit_ofReal_eq_direction vector⟩

end IsFinite

end Vec3

theorem Ray.pointAt_ofReal (ray : Ray ℝ) (lambda : ℝ) :
    (Ray.ofReal ray).pointAt (.real lambda) = .ofReal (ray.follow lambda) := rfl

theorem Ray.along_ofReal (origin direction : Vec3 ℝ) :
    Ray.along (.ofReal origin) (.ofReal direction) = .ofReal ⟨origin, direction.direction⟩ := by
  rw [along, Vec3.unit_ofReal_eq_direction]
  rfl

end RayTracer
