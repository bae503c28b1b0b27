import RayTracer.Matrix
import RayTracer.Proofs.Exact.Directions

/-!
# Affine transformations

A matrix with real entries and the last row of the identity is affine: it moves points
by a linear map and an offset, and dividing by the fourth component changes nothing
(`Matrix4.transformPoint_affine`).

Normals are not moved like the edges of a surface. The columns of the matrix that
transforms them are the cross products of the columns of the linear part, divided by
the determinant. All inner products of these columns with those of the linear part are
zero or one, so the inner product of a normal and an edge does not change
(`Matrix3.inner_dual_image`).
-/

set_option autoImplicit false

namespace RayTracer

open Exact

/-! ## Real matrices of order three -/

namespace Matrix3

/-- The matrix of exact scalars with given real columns. -/
def ofReal (matrix : Matrix3 ℝ) : Matrix3 Exact :=
  ⟨.ofReal matrix.x, .ofReal matrix.y, .ofReal matrix.z⟩

/-- The product of a real matrix and a real vector. -/
noncomputable def image (matrix : Matrix3 ℝ) (vector : Vec3 ℝ) : Vec3 ℝ :=
  .plus (.plus (.times vector.x matrix.x) (.times vector.y matrix.y)) (.times vector.z matrix.z)

/-- The determinant of a real matrix, the volume that its columns span. -/
noncomputable def volume (matrix : Matrix3 ℝ) : ℝ := matrix.z.inner (matrix.x.outer matrix.y)

/-- The inverse of a real matrix with rows and columns exchanged. -/
noncomputable def dual (matrix : Matrix3 ℝ) : Matrix3 ℝ :=
  ⟨.times (1 / matrix.volume) (matrix.y.outer matrix.z),
    .times (1 / matrix.volume) (matrix.z.outer matrix.x),
    .times (1 / matrix.volume) (matrix.x.outer matrix.y)⟩

theorem apply_ofReal (matrix : Matrix3 ℝ) (vector : Vec3 ℝ) :
    (ofReal matrix).apply (.ofReal vector) = .ofReal (matrix.image vector) := rfl

theorem determinant_ofReal (matrix : Matrix3 ℝ) :
    (ofReal matrix).determinant = real matrix.volume := by
  rw [determinant, ofReal, Vec3.cross_ofReal, Vec3.dot_ofReal, volume]

theorem transpose_inverse_ofReal {matrix : Matrix3 ℝ} (regular : matrix.volume ≠ 0) :
    (ofReal matrix).inverse.transpose = ofReal matrix.dual := by
  have isScale : 1 / (ofReal matrix).determinant = real (1 / matrix.volume) := by
    rw [determinant_ofReal, one_eq_real, real_div_real regular]
  rw [inverse, isScale]
  simp only [ofReal, Vec3.cross_ofReal, Vec3.real_smul_ofReal]
  rfl

/-! ## Inner products of images -/

section Image

variable (matrix : Matrix3 ℝ)

theorem image_minus (first second : Vec3 ℝ) :
    matrix.image (.minus first second) = .minus (matrix.image first) (matrix.image second) := by
  refine Vec3.ext_get fun axis => ?_
  cases axis <;>
    simp only [image, Vec3.get, Vec3.minus, Vec3.plus, Vec3.times, Vec3.zipWith, Vec3.map] <;> ring

theorem inner_image (vector image : Vec3 ℝ) :
    Vec3.inner vector (matrix.image image) = image.x * Vec3.inner vector matrix.x +
      image.y * Vec3.inner vector matrix.y + image.z * Vec3.inner vector matrix.z := by
  rw [Matrix3.image, Vec3.inner_plus, Vec3.inner_plus, Vec3.inner_times, Vec3.inner_times,
    Vec3.inner_times]

end Image

variable {matrix : Matrix3 ℝ}

/-- The inner products of a transformed normal with the columns are the components of the
normal. -/
theorem inner_dual_columns (regular : matrix.volume ≠ 0) (normal : Vec3 ℝ) :
    Vec3.inner (matrix.dual.image normal) matrix.x = normal.x ∧
      Vec3.inner (matrix.dual.image normal) matrix.y = normal.y ∧
        Vec3.inner (matrix.dual.image normal) matrix.z = normal.z := by
  have cancel : 1 / matrix.volume * matrix.volume = 1 := one_div_mul_cancel regular
  -- Every column is level with two of the three cross products and spans the volume with the
  -- third.
  refine ⟨?_, ?_, ?_⟩
  all_goals
    rw [Vec3.inner_comm, inner_image]
    simp only [dual, Vec3.inner_times]
    simp only [volume, Vec3.inner, Vec3.outer] at cancel ⊢
  · linear_combination normal.x * cancel
  · linear_combination normal.y * cancel
  · linear_combination normal.z * cancel

/-- **The inner product of a normal and an edge is the same after the transformation.** -/
theorem inner_dual_image (regular : matrix.volume ≠ 0) (normal edge : Vec3 ℝ) :
    Vec3.inner (matrix.dual.image normal) (matrix.image edge) = Vec3.inner normal edge := by
  obtain ⟨atX, atY, atZ⟩ := inner_dual_columns regular normal
  rw [inner_image, atX, atY, atZ, Vec3.inner]
  ring

end Matrix3

/-! ## Affine matrices -/

namespace Matrix4

/-- A matrix with real entries and the last row of the identity. -/
structure IsAffine (matrix : Matrix4 Exact) : Prop where
  x : matrix.x.xyz.IsFinite
  y : matrix.y.xyz.IsFinite
  z : matrix.z.xyz.IsFinite
  w : matrix.w.xyz.IsFinite
  lastRow : matrix.x.w = 0 ∧ matrix.y.w = 0 ∧ matrix.z.w = 0 ∧ matrix.w.w = 1

/-- The affine matrix of a linear map and an offset. -/
noncomputable def affine (linear : Matrix3 ℝ) (offset : Vec3 ℝ) : Matrix4 Exact :=
  ⟨⟨.ofReal linear.x, 0⟩, ⟨.ofReal linear.y, 0⟩, ⟨.ofReal linear.z, 0⟩, ⟨.ofReal offset, 1⟩⟩

theorem isAffine_affine (linear : Matrix3 ℝ) (offset : Vec3 ℝ) : (affine linear offset).IsAffine :=
  ⟨⟨_, rfl⟩, ⟨_, rfl⟩, ⟨_, rfl⟩, ⟨_, rfl⟩, rfl, rfl, rfl, rfl⟩

theorem IsAffine.eq_affine {matrix : Matrix4 Exact} (isAffine : matrix.IsAffine) :
    ∃ linear offset, matrix = affine linear offset := by
  obtain ⟨⟨x, isX⟩, ⟨y, isY⟩, ⟨z, isZ⟩, ⟨offset, isOffset⟩, lastX, lastY, lastZ, lastW⟩ := isAffine
  exact ⟨⟨x, y, z⟩, offset, Matrix4.ext (Vec4.ext isX lastX) (Vec4.ext isY lastY)
    (Vec4.ext isZ lastZ) (Vec4.ext isOffset lastW)⟩

section Affine

variable (linear : Matrix3 ℝ) (offset : Vec3 ℝ)

theorem applyPoint_affine (point : Vec3 ℝ) :
    (affine linear offset).applyPoint (.ofReal point) =
      ⟨.ofReal (.plus (linear.image point) offset), 1⟩ := by
  have lastRow : (0 : ℝ) * point.x + 0 * point.y + 0 * point.z + 1 * 1 = 1 := by ring
  have unscaled : Vec3.times 1 offset = offset := by simp only [Vec3.times, Vec3.map, one_mul]
  refine Vec4.ext ?_ ?_
  · rw [applyPoint, affine, one_eq_real, Vec3.real_smul_ofReal, unscaled]
    rfl
  · simp only [applyPoint, affine, zero_eq_real, one_eq_real, Vec3.ofReal, Vec3.map, real_mul_real,
      real_add_real, lastRow]

/-- Points are moved by the linear map and the offset. -/
theorem transformPoint_affine (point : Vec3 ℝ) :
    (affine linear offset).transformPoint (.ofReal point) =
      .ofReal (.plus (linear.image point) offset) := by
  have nonzero : ¬((1 : Exact) == 0) = true := by
    rw [one_eq_real, zero_eq_real, real_beq_real]
    exact one_ne_zero
  rw [transformPoint, applyPoint_affine]
  refine (if_neg nonzero).trans ?_
  refine Vec3.ext_get fun axis => ?_
  rw [Vec3.get_div, Vec3.get_ofReal, one_eq_real, real_div_real one_ne_zero, div_one]

/-- The offset does not move edges. -/
theorem transformPoint_sub_affine (first second : Vec3 ℝ) :
    (affine linear offset).transformPoint (.ofReal first) -
        (affine linear offset).transformPoint (.ofReal second) =
      .ofReal (linear.image (.minus first second)) := by
  rw [transformPoint_affine, transformPoint_affine, Vec3.ofReal_sub_ofReal, linear.image_minus]
  refine congrArg Vec3.ofReal (Vec3.ext_get fun axis => ?_)
  cases axis <;> simp only [Vec3.get, Vec3.minus, Vec3.plus, Vec3.zipWith] <;> ring

end Affine

theorem normalMatrix_affine {linear : Matrix3 ℝ} (regular : linear.volume ≠ 0) (offset : Vec3 ℝ) :
    (affine linear offset).normalMatrix = .ofReal linear.dual :=
  Matrix3.transpose_inverse_ofReal regular

end Matrix4

end RayTracer
