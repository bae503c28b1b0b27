import RayTracer.Light
import RayTracer.Proofs.Exact.Directions

/-!
# Numbers and amounts of light

Most operations on exact scalars that are numbers give numbers again (`Exact.IsNumber`).
Numbers that are not negative (`Exact.IsAmount`) are what colours are made of. A colour
all of whose channels are such numbers is called light (`Vec3.IsLight`). Light is added,
filtered by other colours and divided by positive scalars, and it stays light.
-/

set_option autoImplicit false

namespace RayTracer

namespace Exact

/-- A scalar is a number. -/
def IsNumber (scalar : Exact) : Prop := ∃ value, scalar = real value

/-- A scalar is a number that is not negative. -/
def IsAmount (scalar : Exact) : Prop := ∃ value : ℝ, scalar = real value ∧ 0 ≤ value

theorem isNumber_real (value : ℝ) : (real value).IsNumber := ⟨value, rfl⟩

theorem isAmount_real {value : ℝ} (nonneg : 0 ≤ value) : (real value).IsAmount :=
  ⟨value, rfl, nonneg⟩

namespace IsNumber

variable {first second : Exact}

theorem add (isNumber : first.IsNumber) (other : second.IsNumber) : (first + second).IsNumber := by
  obtain ⟨value, rfl⟩ := isNumber
  obtain ⟨more, rfl⟩ := other
  exact ⟨_, real_add_real _ _⟩

theorem sub (isNumber : first.IsNumber) (other : second.IsNumber) : (first - second).IsNumber := by
  obtain ⟨value, rfl⟩ := isNumber
  obtain ⟨less, rfl⟩ := other
  exact ⟨_, real_sub_real _ _⟩

theorem mul (isNumber : first.IsNumber) (other : second.IsNumber) : (first * second).IsNumber := by
  obtain ⟨value, rfl⟩ := isNumber
  obtain ⟨factor, rfl⟩ := other
  exact ⟨_, real_mul_real _ _⟩

theorem div (isNumber : first.IsNumber) {divisor : ℝ} (nonzero : divisor ≠ 0) :
    (first / real divisor).IsNumber := by
  obtain ⟨value, rfl⟩ := isNumber
  exact ⟨_, real_div_real nonzero⟩

theorem exp (isNumber : first.IsNumber) : (Scalar.exp first).IsNumber := by
  obtain ⟨value, rfl⟩ := isNumber
  exact ⟨Real.exp value, rfl⟩

theorem minNum (isNumber : first.IsNumber) (other : second.IsNumber) :
    (Scalar.minNum first second).IsNumber := by
  obtain ⟨value, rfl⟩ := isNumber
  obtain ⟨bound, rfl⟩ := other
  exact ⟨_, minNum_real _ _⟩

/-- A number raised to zero is an amount. -/
theorem maxNum_zero (isNumber : first.IsNumber) : (Scalar.maxNum first 0).IsAmount := by
  obtain ⟨value, rfl⟩ := isNumber
  rw [zero_eq_real, maxNum_real]
  exact isAmount_real (le_max_right value 0)

/-- A number clamped to an interval lies in the interval. -/
theorem clamp (isNumber : first.IsNumber) {lower upper : ℝ} (ordered : lower ≤ upper) :
    ∃ value, Scalar.clamp first (real lower) (real upper) = real value ∧ lower ≤ value ∧
      value ≤ upper := by
  obtain ⟨value, rfl⟩ := isNumber
  rw [Scalar.clamp]
  by_cases low : value < lower
  · rw [if_pos (real_lt_real.mpr low), if_neg fun above => (real_lt_real.mp above).not_ge ordered]
    exact ⟨lower, rfl, le_rfl, ordered⟩
  · rw [if_neg fun below => low (real_lt_real.mp below)]
    by_cases high : upper < value
    · rw [if_pos (real_lt_real.mpr high)]
      exact ⟨upper, rfl, ordered, le_rfl⟩
    · rw [if_neg fun above => high (real_lt_real.mp above)]
      exact ⟨value, rfl, not_lt.mp low, not_lt.mp high⟩

end IsNumber

namespace IsAmount

variable {first second : Exact}

theorem isNumber (isAmount : first.IsAmount) : first.IsNumber := by
  obtain ⟨value, isValue, -⟩ := isAmount
  exact ⟨value, isValue⟩

theorem nonneg (isAmount : first.IsAmount) : 0 ≤ first := by
  obtain ⟨value, rfl, nonneg⟩ := isAmount
  rwa [zero_eq_real, real_le_real]

theorem le_self (isAmount : first.IsAmount) : first ≤ first := by
  obtain ⟨value, rfl, -⟩ := isAmount
  exact real_le_real.mpr le_rfl

theorem add (isAmount : first.IsAmount) (other : second.IsAmount) : (first + second).IsAmount := by
  obtain ⟨value, rfl, nonneg⟩ := isAmount
  obtain ⟨more, rfl, alsoNonneg⟩ := other
  exact isAmount_real (add_nonneg nonneg alsoNonneg)

theorem mul (isAmount : first.IsAmount) (other : second.IsAmount) : (first * second).IsAmount := by
  obtain ⟨value, rfl, nonneg⟩ := isAmount
  obtain ⟨factor, rfl, alsoNonneg⟩ := other
  exact isAmount_real (mul_nonneg nonneg alsoNonneg)

/-- An infinite divisor leaves nothing. -/
theorem div (isAmount : first.IsAmount) (positive : real 0 < second) :
    (first / second).IsAmount := by
  obtain ⟨value, rfl, nonneg⟩ := isAmount
  cases second with
  | undefined => exact positive.elim
  | negInfinity => exact positive.elim
  | real divisor =>
    rw [real_div_real (real_lt_real.mp positive).ne']
    exact isAmount_real (div_nonneg nonneg (real_lt_real.mp positive).le)
  | infinity => exact isAmount_real le_rfl

theorem pow (isAmount : first.IsAmount) (exponent : second.IsAmount) :
    (Scalar.pow first second).IsAmount := by
  obtain ⟨value, rfl, nonneg⟩ := isAmount
  obtain ⟨power, rfl, alsoNonneg⟩ := exponent
  change (Exact.pow (real value) (real power)).IsAmount
  rw [Exact.pow]
  split
  · exact isAmount_real zero_le_one
  · split
    · rw [if_neg alsoNonneg.not_gt]
      exact isAmount_real le_rfl
    · rename_i nonzero
      rw [if_pos (.inl (lt_of_le_of_ne nonneg (Ne.symm nonzero)))]
      exact isAmount_real (Real.rpow_nonneg nonneg power)

end IsAmount

end Exact

/-! ## Finite vectors -/

namespace Vec3

theorem IsFinite.dot {first second : Vec3 Exact} (finite : first.IsFinite)
    (other : second.IsFinite) : (first.dot second).IsNumber := by
  obtain ⟨vector, rfl⟩ := finite
  obtain ⟨heading, rfl⟩ := other
  exact ⟨_, dot_ofReal _ _⟩

/-! ## Light -/

/-- All channels of a colour are numbers that are not negative. -/
def IsLight (color : Color Exact) : Prop := ∀ axis, (color.get axis).IsAmount

theorem isLight_zero : IsLight 0 := by
  intro axis
  rw [get_zero, Exact.zero_eq_real]
  exact Exact.isAmount_real le_rfl

theorem isLight_sup_zero {color : Color Exact} (finite : color.IsFinite) :
    IsLight (color.sup 0) := by
  intro axis
  have raised : (color.sup 0).get axis = Scalar.maxNum (color.get axis) 0 := by cases axis <;> rfl
  rw [raised]
  exact Exact.IsNumber.maxNum_zero (finite.get axis)

namespace IsLight

variable {first second : Color Exact}

theorem add (isLight : first.IsLight) (other : second.IsLight) : (first + second).IsLight := by
  intro axis
  rw [get_add]
  exact (isLight axis).add (other axis)

theorem mul (isLight : first.IsLight) (other : second.IsLight) : (first * second).IsLight := by
  intro axis
  rw [get_mul]
  exact (isLight axis).mul (other axis)

theorem smul (isLight : first.IsLight) {factor : Exact} (isAmount : factor.IsAmount) :
    (factor • first).IsLight := by
  intro axis
  rw [get_smul]
  exact isAmount.mul (isLight axis)

theorem div (isLight : first.IsLight) {divisor : Exact} (positive : .real 0 < divisor) :
    (first / divisor).IsLight := by
  intro axis
  rw [get_div]
  exact (isLight axis).div positive

end IsLight

end Vec3

end RayTracer
