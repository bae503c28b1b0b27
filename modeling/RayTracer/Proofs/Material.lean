import RayTracer.Material
import RayTracer.Proofs.Exact.Amounts
import RayTracer.Proofs.Shape.Finite

/-!
# What the constructors of materials guarantee

A material made by a constructor from numbers sends back light, however the numbers were
chosen (`Material.Constructed.isLight_direct`, `Material.Constructed.isLight_ambient`). It
mirrors a fraction of the light between zero and one, and a material that mirrors at all
filters mirrored light without making any channel brighter
(`Material.Constructed.exists_absorption`). Only an index of refraction of minus one is
left out: Schlick's approximation divides by zero there.
-/

set_option autoImplicit false

namespace RayTracer

open Exact

/-- A light at a finite position that sends out light. -/
structure Light.Shines (light : Light Exact) : Prop where
  position : light.position.IsFinite
  ambient : light.ambient.IsLight
  diffuse : light.diffuse.IsLight
  specular : light.specular.IsLight

/-- A material made by its constructor from numbers. -/
inductive Material.Constructed : Material Exact → Prop where
  | constant (color : Vec3 ℝ) : Constructed (.constant (.of (.ofReal color)))
  | phong (ambient diffuse specular : Vec3 ℝ) (reflectance shininess : ℝ) :
    Constructed (.phong (.of (.ofReal ambient) (.ofReal diffuse) (.ofReal specular)
      (real reflectance) (real shininess)))
  | cookTorrance (albedo : Vec3 ℝ) (roughness refraction : ℝ) (ambient : Vec3 ℝ)
      (reflectance : ℝ) (proper : refraction ≠ -1) :
    Constructed (.cookTorrance (.of (.ofReal albedo) (real roughness) (real refraction)
      (.ofReal ambient) (real reflectance)))

/-! ## Colours -/

theorem isLight_nonNegative (color : Vec3 ℝ) : (nonNegative (.ofReal color)).IsLight :=
  Vec3.isLight_sup_zero color.isFinite_ofReal

theorem exists_clamp_unit {scalar : Exact} (isNumber : scalar.IsNumber) :
    ∃ value, Scalar.clamp scalar 0 1 = real value ∧ 0 ≤ value ∧ value ≤ 1 := by
  rw [zero_eq_real, one_eq_real]
  exact isNumber.clamp zero_le_one

theorem isAmount_clamp_unit {scalar : Exact} (isNumber : scalar.IsNumber) :
    (Scalar.clamp scalar 0 1).IsAmount := by
  obtain ⟨value, isValue, nonneg, -⟩ := exists_clamp_unit isNumber
  exact ⟨value, isValue, nonneg⟩

/-- The distance of a light is at least epsilon, so light can be divided by it. -/
theorem falloff_pos {hit : Intersection Exact} (finite : hit.IsFinite) {light : Light Exact}
    (shines : light.Shines) : real 0 < falloff hit light := by
  have offset := shines.position.sub finite.position
  obtain ⟨distance, isDistance⟩ := offset.dot offset
  rw [falloff, Vec3.normSquared, isDistance, epsilon_eq_real, maxNum_real, real_lt_real]
  exact lt_max_of_lt_right (by norm_num)

/-- Scaled down to one, no channel of light exceeds one. -/
theorem exists_atMostOne {color : Color Exact} (isLight : color.IsLight) (axis : Axis) :
    ∃ value, (atMostOne color).get axis = real value ∧ 0 ≤ value ∧ value ≤ 1 := by
  obtain ⟨x, isX, xNonneg⟩ := isLight .x
  obtain ⟨y, isY, yNonneg⟩ := isLight .y
  obtain ⟨z, isZ, zNonneg⟩ := isLight .z
  obtain rfl : color = .ofReal ⟨x, y, z⟩ := Vec3.ext isX isY isZ
  have below : (Vec3.mk x y z).get axis ≤ max x (max y z) := by cases axis <;> simp [Vec3.get]
  have nonneg : 0 ≤ (Vec3.mk x y z).get axis := by cases axis <;> assumption
  rw [atMostOne, Vec3.greatest_ofReal, one_eq_real]
  by_cases exceeds : 1 < max x (max y z)
  · have positive := one_pos.trans exceeds
    refine ⟨(Vec3.mk x y z).get axis / max x (max y z), ?_, div_nonneg nonneg positive.le,
      div_le_one_of_le₀ below positive.le⟩
    rw [if_pos (real_lt_real.mpr exceeds), Vec3.get_div, Vec3.get_ofReal,
      real_div_real positive.ne']
  · refine ⟨(Vec3.mk x y z).get axis, ?_, nonneg, below.trans (not_lt.mp exceeds)⟩
    rw [if_neg fun above => exceeds (real_lt_real.mp above), Vec3.get_ofReal]

/-! ## Phong materials -/

theorem Phong.isLight_direct (ambient diffuse specular : Vec3 ℝ) (reflectance shininess : ℝ)
    {hit : Intersection Exact} (finite : hit.IsFinite) {light : Light Exact}
    (shines : light.Shines) :
    ((Phong.of (.ofReal ambient) (.ofReal diffuse) (.ofReal specular) (real reflectance)
      (real shininess)).direct hit light).IsLight := by
  have positive := falloff_pos finite shines
  have normal := finite.normal.unit
  have direction := (shines.position.sub finite.position).unit
  have incidence := (normal.dot direction).maxNum_zero
  have twice : (2 * hit.normal.unit.dot (light.position - hit.position).unit).IsNumber :=
    IsNumber.mul ⟨2, two_eq_real⟩ (normal.dot direction)
  have mirrored : ((light.position - hit.position).unit -
      (2 * hit.normal.unit.dot (light.position - hit.position).unit) •
        hit.normal.unit).unit.IsFinite := by
    obtain ⟨factor, isFactor⟩ := twice
    rw [isFactor]
    exact (direction.sub (normal.smul factor)).unit
  have alignment := (mirrored.dot finite.ray.2).maxNum_zero
  have sharpness := (isNumber_real shininess).maxNum_zero
  have scattered := ((isLight_nonNegative diffuse).smul incidence).mul shines.diffuse
  have highlight := ((isLight_nonNegative specular).smul (alignment.pow sharpness)).mul
    shines.specular
  exact (scattered.div positive).add (highlight.div positive)

/-! ## Cook–Torrance materials -/

namespace CookTorrance

theorem isNumber_attenuation {normalHalf viewHalf viewNormal lightNormal : Exact}
    (isNormalHalf : normalHalf.IsNumber) (isViewHalf : viewHalf.IsNumber)
    (isViewNormal : viewNormal.IsNumber) (isLightNormal : lightNormal.IsNumber) :
    (attenuation normalHalf viewHalf viewNormal lightNormal).IsNumber := by
  obtain ⟨height, rfl⟩ := isViewHalf
  have one : (1 : Exact).IsNumber := ⟨1, one_eq_real⟩
  have two : (2 : Exact).IsNumber := ⟨2, two_eq_real⟩
  rw [attenuation, epsilon_eq_real]
  split
  · rename_i high
    have positive : 0 < height := lt_of_lt_of_le (by norm_num) (real_le_real.mp high)
    exact (((two.mul isNormalHalf).mul (isViewNormal.minNum isLightNormal)).div positive.ne').minNum
      one
  · exact one

theorem isNumber_distribution (roughness : ℝ) {normalHalf : Exact}
    (isNormalHalf : ∃ value, normalHalf = real value ∧ 0 < value) :
    (distribution (real roughness) normalHalf).IsNumber := by
  obtain ⟨cosine, rfl, positive⟩ := isNormalHalf
  have least : (leastRoughness : Exact) = real 0.03 := rfl
  have rough : 0 < max roughness 0.03 := lt_max_of_lt_right (by norm_num)
  have four : (4 : Exact) = real 4 := congrArg real Nat.cast_ofNat
  simp only [distribution, least, maxNum_real, Scalar.square, real_mul_real, one_eq_real,
    real_sub_real, four]
  refine IsNumber.div (IsNumber.exp (IsNumber.div (isNumber_real _) ?_)) ?_
  · positivity
  · positivity

theorem isNumber_fresnel {refraction : ℝ} (proper : refraction ≠ -1) {viewNormal : Exact}
    (isViewNormal : viewNormal.IsNumber) : (fresnel (real refraction) viewNormal).IsNumber := by
  have one : (1 : Exact).IsNumber := ⟨1, one_eq_real⟩
  have nonzero : 1 + refraction ≠ 0 := fun zero => proper (eq_neg_of_add_eq_zero_right zero)
  have head : ((1 - real refraction) / (1 + real refraction)).IsNumber := by
    rw [one_eq_real, real_add_real, real_sub_real]
    exact (isNumber_real _).div nonzero
  have squared := head.mul head
  have grazing := one.sub isViewNormal
  have fifth := grazing.mul ((grazing.mul grazing).mul (grazing.mul grazing))
  exact squared.add ((one.sub squared).mul fifth)

theorem isLight_direct (albedo : Vec3 ℝ) (roughness : ℝ) {refraction : ℝ}
    (proper : refraction ≠ -1) (ambient : Vec3 ℝ) (reflectance : ℝ) {hit : Intersection Exact}
    (finite : hit.IsFinite) {light : Light Exact} (shines : light.Shines) :
    ((CookTorrance.of (.ofReal albedo) (real roughness) (real refraction) (.ofReal ambient)
      (real reflectance)).direct hit light).IsLight := by
  have normal := finite.normal.unit
  have direction := (shines.position.sub finite.position).unit
  have backwards := finite.ray.2.neg
  have half := (direction.sub finite.ray.2).unit
  have viewNormal := isAmount_clamp_unit (backwards.dot normal)
  have lightNormal := isAmount_clamp_unit (normal.dot direction)
  have viewHalf := isAmount_clamp_unit (backwards.dot half)
  have normalHalf : ∃ value, Scalar.clamp (hit.normal.unit.dot
      ((light.position - hit.position).unit - hit.ray.direction).unit) epsilon 1 = real value ∧
      0 < value := by
    have ordered : (1e-9 : ℝ) ≤ 1 := by norm_num
    rw [epsilon_eq_real, one_eq_real]
    obtain ⟨value, isValue, above, -⟩ := (normal.dot half).clamp ordered
    exact ⟨value, isValue, lt_of_lt_of_le (by norm_num) above⟩
  have isNormalHalf : IsNumber _ := ⟨_, normalHalf.choose_spec.1⟩
  have highlight := isAmount_clamp_unit
    (((isNumber_attenuation isNormalHalf viewHalf.isNumber viewNormal.isNumber
      lightNormal.isNumber).mul (isNumber_distribution roughness normalHalf)).mul
      (isNumber_fresnel proper viewNormal.isNumber))
  have surface := isLight_nonNegative albedo
  have oneHalf : (0.5 : Exact).IsAmount := ⟨0.5, rfl, by norm_num⟩
  have rest : (1 - 0.5 : Exact).IsAmount := by
    rw [one_eq_real]
    exact ⟨1 - 0.5, real_sub_real 1 0.5, by norm_num⟩
  have mixed := ((shines.diffuse.smul rest).add (surface.smul oneHalf)).smul highlight
  have scattered := (surface.smul (normal.dot direction).maxNum_zero).mul shines.diffuse
  exact scattered.add mixed

end CookTorrance

/-! ## All materials -/

namespace Material.Constructed

variable {material : Material Exact} (constructed : material.Constructed)
include constructed

/-- The light that a lamp adds where nothing is in its way. -/
theorem isLight_direct {hit : Intersection Exact} (finite : hit.IsFinite) {light : Light Exact}
    (shines : light.Shines) : (material.direct hit light).IsLight := by
  cases constructed with
  | constant color => exact isLight_nonNegative color
  | phong ambient diffuse specular reflectance shininess =>
    exact Phong.isLight_direct ambient diffuse specular reflectance shininess finite shines
  | cookTorrance albedo roughness refraction ambient reflectance proper =>
    exact CookTorrance.isLight_direct albedo roughness proper ambient reflectance finite shines

/-- The light that a lamp always adds. -/
theorem isLight_ambient {hit : Intersection Exact} (finite : hit.IsFinite) {light : Light Exact}
    (shines : light.Shines) : (material.ambient hit light).IsLight := by
  cases constructed with
  | constant color => exact Vec3.isLight_zero
  | phong ambient diffuse specular reflectance shininess =>
    exact ((isLight_nonNegative ambient).mul shines.ambient).div (falloff_pos finite shines)
  | cookTorrance albedo roughness refraction ambient reflectance proper =>
    exact (isLight_nonNegative ambient).mul shines.ambient

/-- The mirrored fraction of light is between zero and one. -/
theorem exists_reflectance :
    ∃ fraction, material.reflectance = real fraction ∧ 0 ≤ fraction ∧ fraction ≤ 1 := by
  cases constructed with
  | constant color => exact ⟨0, zero_eq_real, le_rfl, zero_le_one⟩
  | phong ambient diffuse specular reflectance shininess =>
    exact exists_clamp_unit (isNumber_real reflectance)
  | cookTorrance albedo roughness refraction ambient reflectance proper =>
    exact exists_clamp_unit (isNumber_real reflectance)

/-- A mirror makes no channel of the light that it mirrors brighter. -/
theorem exists_absorption (mirrors : 0 < material.reflectance) (axis : Axis) :
    ∃ factor, material.absorption.get axis = real factor ∧ 0 ≤ factor ∧ factor ≤ 1 := by
  cases constructed with
  | constant color =>
    change (0 : Exact) < 0 at mirrors
    rw [zero_eq_real, real_lt_real] at mirrors
    exact (lt_irrefl 0 mirrors).elim
  | phong ambient diffuse specular reflectance shininess =>
    exact exists_atMostOne ((isLight_nonNegative diffuse).add (isLight_nonNegative ambient)) axis
  | cookTorrance albedo roughness refraction ambient reflectance proper =>
    exact exists_atMostOne ((isLight_nonNegative albedo).add (isLight_nonNegative ambient)) axis

end Material.Constructed

end RayTracer
