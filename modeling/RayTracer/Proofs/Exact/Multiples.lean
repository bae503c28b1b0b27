import RayTracer.Proofs.Exact

/-!
# Sums and multiples of exact scalars

Addition of exact scalars is commutative and associative, whatever the summands. A
factor that is a number distributes over every sum (`Exact.add_mul_real`): it keeps or
swaps the sides of all infinities alike, and makes them invalid when it is zero. Such
factors are multiplied with each other first or later with the same result
(`Exact.mul_real_mul_real`). For other factors neither holds.
-/

set_option autoImplicit false

namespace RayTracer

namespace Exact

/-! ## Sums -/

protected theorem add_comm (first second : Exact) : first + second = second + first := by
  cases first <;> cases second <;> first
    | rfl
    | exact congrArg real (add_comm _ _)

protected theorem add_assoc (first second third : Exact) :
    first + second + third = first + (second + third) := by
  cases first <;> cases second <;> cases third <;> first
    | rfl
    | exact congrArg real (add_assoc _ _ _)

@[simp] theorem add_real_zero (scalar : Exact) : scalar + real 0 = scalar := by
  cases scalar <;> first
    | rfl
    | exact congrArg real (add_zero _)

@[simp] theorem real_zero_add (scalar : Exact) : real 0 + scalar = scalar :=
  (Exact.add_comm _ _).trans (add_real_zero scalar)

@[simp] theorem undefined_add (scalar : Exact) : undefined + scalar = undefined := by
  cases scalar <;> rfl

@[simp] theorem add_undefined (scalar : Exact) : scalar + undefined = undefined := by
  cases scalar <;> rfl

/-! ## Products -/

protected theorem mul_comm (first second : Exact) : first * second = second * first := by
  cases first <;> cases second <;> first
    | rfl
    | exact congrArg real (mul_comm _ _)

@[simp] theorem undefined_mul (scalar : Exact) : undefined * scalar = undefined := by
  cases scalar <;> rfl

@[simp] theorem signedInfinity_zero : signedInfinity 0 = undefined := by
  simp [signedInfinity]

@[simp] theorem mul_real_one (scalar : Exact) : scalar * real 1 = scalar := by
  cases scalar with
  | undefined => rfl
  | negInfinity => rw [negInfinity_mul_real, signedInfinity_of_neg (by norm_num)]
  | real value => rw [real_mul_real, mul_one]
  | infinity => rw [infinity_mul_real, signedInfinity_of_pos one_pos]

theorem signedInfinity_mul_real (side factor : ℝ) :
    signedInfinity side * real factor = signedInfinity (side * factor) := by
  rcases lt_trichotomy side 0 with negative | rfl | positive
  · rw [signedInfinity_of_neg negative, negInfinity_mul_real]
    rcases lt_trichotomy factor 0 with below | rfl | above
    · rw [signedInfinity_of_pos (neg_pos.mpr below),
        signedInfinity_of_pos (mul_pos_of_neg_of_neg negative below)]
    · simp
    · rw [signedInfinity_of_neg (neg_neg_of_pos above),
        signedInfinity_of_neg (mul_neg_of_neg_of_pos negative above)]
  · simp
  · rw [signedInfinity_of_pos positive, infinity_mul_real]
    rcases lt_trichotomy factor 0 with below | rfl | above
    · rw [signedInfinity_of_neg below, signedInfinity_of_neg (mul_neg_of_pos_of_neg positive below)]
    · simp
    · rw [signedInfinity_of_pos above, signedInfinity_of_pos (mul_pos positive above)]

/-- **Two factors that are numbers make one.** -/
theorem mul_real_mul_real (scalar : Exact) (first second : ℝ) :
    scalar * real first * real second = scalar * real (first * second) := by
  cases scalar with
  | undefined => rfl
  | negInfinity => simp [signedInfinity_mul_real]
  | real value => simp [mul_assoc]
  | infinity => simp [signedInfinity_mul_real]

theorem div_real_of_pos (scalar : Exact) {divisor : ℝ} (positive : 0 < divisor) :
    scalar / real divisor = scalar * real divisor⁻¹ := by
  cases scalar with
  | undefined => rfl
  | negInfinity =>
    rw [negInfinity_mul_real, signedInfinity_of_neg (neg_neg_of_pos (inv_pos.mpr positive))]
    exact if_neg positive.not_gt
  | real value => simp [positive.ne', div_eq_mul_inv]
  | infinity =>
    rw [infinity_mul_real, signedInfinity_of_pos (inv_pos.mpr positive)]
    exact if_neg positive.not_gt

theorem zero_lt_epsilon : real 0 < (epsilon : Exact) := by
  rw [epsilon_eq_real, real_lt_real]
  norm_num

theorem zero_div_of_pos {divisor : Exact} (positive : real 0 < divisor) :
    real 0 / divisor = real 0 := by
  cases divisor with
  | undefined => exact positive.elim
  | negInfinity => exact positive.elim
  | real value => rw [real_div_real (real_lt_real.mp positive).ne', zero_div]
  | infinity => rfl

/-! ## Multiples of sums -/

theorem signedInfinity_add_real (side value : ℝ) :
    signedInfinity side + real value = signedInfinity side := by
  unfold signedInfinity
  split
  · rfl
  · split <;> rfl

theorem signedInfinity_add_self (side : ℝ) :
    signedInfinity side + signedInfinity side = signedInfinity side := by
  unfold signedInfinity
  split
  · rfl
  · split <;> rfl

theorem signedInfinity_add_neg (side : ℝ) :
    signedInfinity side + signedInfinity (-side) = undefined := by
  rcases lt_trichotomy side 0 with negative | rfl | positive
  · rw [signedInfinity_of_neg negative, signedInfinity_of_pos (neg_pos.mpr negative)]
    rfl
  · simp
  · rw [signedInfinity_of_pos positive, signedInfinity_of_neg (neg_neg_of_pos positive)]
    rfl

/-- **A factor that is a number distributes over every sum.** -/
theorem add_mul_real (first second : Exact) (factor : ℝ) :
    (first + second) * real factor = first * real factor + second * real factor := by
  cases first with
  | undefined => simp
  | negInfinity =>
    cases second with
    | undefined => simp
    | negInfinity => exact (signedInfinity_add_self _).symm
    | real value => exact (signedInfinity_add_real _ _).symm
    | infinity => exact ((Exact.add_comm _ _).trans (signedInfinity_add_neg factor)).symm
  | real value =>
    cases second with
    | undefined => simp
    | negInfinity => exact ((Exact.add_comm _ _).trans (signedInfinity_add_real _ _)).symm
    | real other => exact congrArg real (add_mul _ _ _)
    | infinity => exact ((Exact.add_comm _ _).trans (signedInfinity_add_real _ _)).symm
  | infinity =>
    cases second with
    | undefined => simp
    | negInfinity => exact (signedInfinity_add_neg factor).symm
    | real value => exact (signedInfinity_add_real _ _).symm
    | infinity => exact (signedInfinity_add_self _).symm

theorem real_mul_add (factor : ℝ) (first second : Exact) :
    real factor * (first + second) = real factor * first + real factor * second := by
  rw [Exact.mul_comm, add_mul_real, Exact.mul_comm first, Exact.mul_comm second]

end Exact

/-! ## Vectors -/

namespace Vec3

section Components

variable {S : Type}

@[simp] theorem get_splat (value : S) (axis : Axis) : (splat value).get axis = value := by
  cases axis <;> rfl

variable [Scalar S]

@[simp] theorem get_add (first second : Vec3 S) (axis : Axis) :
    (first + second).get axis = first.get axis + second.get axis := by
  cases axis <;> rfl

@[simp] theorem get_mul (first second : Vec3 S) (axis : Axis) :
    (first * second).get axis = first.get axis * second.get axis := by
  cases axis <;> rfl

@[simp] theorem get_smul (factor : S) (vector : Vec3 S) (axis : Axis) :
    (factor • vector).get axis = factor * vector.get axis := by
  cases axis <;> rfl

@[simp] theorem get_div (vector : Vec3 S) (divisor : S) (axis : Axis) :
    (vector / divisor).get axis = vector.get axis / divisor := by
  cases axis <;> rfl

@[simp] theorem get_zero (axis : Axis) : (0 : Vec3 S).get axis = 0 := get_splat 0 axis

end Components

protected theorem add_comm (first second : Vec3 Exact) : first + second = second + first :=
  ext_get fun axis => by rw [get_add, get_add, Exact.add_comm]

protected theorem add_assoc (first second third : Vec3 Exact) :
    first + second + third = first + (second + third) :=
  ext_get fun axis => by simp only [get_add, Exact.add_assoc]

protected theorem add_zero (vector : Vec3 Exact) : vector + 0 = vector :=
  ext_get fun axis => by simp

protected theorem zero_add (vector : Vec3 Exact) : 0 + vector = vector :=
  ext_get fun axis => by simp

protected theorem smul_zero (factor : ℝ) : Exact.real factor • (0 : Vec3 Exact) = 0 :=
  ext_get fun axis => by simp

theorem mul_splat_one (vector : Vec3 Exact) : vector * splat 1 = vector :=
  ext_get fun axis => by simp

theorem zero_div_of_pos {divisor : Exact} (positive : .real 0 < divisor) :
    (0 : Vec3 Exact) / divisor = 0 :=
  ext_get fun axis => by simp [Exact.zero_div_of_pos positive]

theorem div_real_of_pos (vector : Vec3 Exact) {divisor : ℝ} (positive : 0 < divisor) :
    vector / Exact.real divisor = Exact.real divisor⁻¹ • vector := by
  refine ext_get fun axis => ?_
  rw [get_div, get_smul, Exact.div_real_of_pos _ positive, Exact.mul_comm]

/-- A multiple of a sum, one summand of which was divided by the factor before. -/
theorem smul_add_smul_inv {factor : ℝ} (nonzero : factor ≠ 0) (first second : Vec3 Exact) :
    Exact.real factor • (first + Exact.real factor⁻¹ • second) =
      Exact.real factor • first + second := by
  refine ext_get fun axis => ?_
  simp only [get_smul, get_add, Exact.real_mul_add]
  rw [Exact.mul_comm (.real factor⁻¹), Exact.mul_comm (.real factor) (_ * _),
    Exact.mul_real_mul_real, inv_mul_cancel₀ nonzero, Exact.mul_real_one]

theorem greatest_ofReal (vector : Vec3 ℝ) :
    (ofReal vector).greatest = .real (max vector.x (max vector.y vector.z)) :=
  (congrArg _ (Exact.maxNum_real vector.y vector.z)).trans (Exact.maxNum_real vector.x _)

theorem IsFinite.get {vector : Vec3 Exact} (finite : vector.IsFinite) (axis : Axis) :
    ∃ number, vector.get axis = .real number := by
  obtain ⟨components, rfl⟩ := finite
  exact ⟨components.get axis, get_ofReal components axis⟩

theorem isFinite_of_get {vector : Vec3 Exact}
    (numbers : ∀ axis, ∃ number, vector.get axis = .real number) : vector.IsFinite := by
  obtain ⟨x, isX⟩ := numbers .x
  obtain ⟨y, isY⟩ := numbers .y
  obtain ⟨z, isZ⟩ := numbers .z
  exact ⟨⟨x, y, z⟩, Vec3.ext isX isY isZ⟩

theorem IsFinite.add {first second : Vec3 Exact} (firstFinite : first.IsFinite)
    (secondFinite : second.IsFinite) : (first + second).IsFinite := by
  refine isFinite_of_get fun axis => ?_
  obtain ⟨summand, isSummand⟩ := firstFinite.get axis
  obtain ⟨other, isOther⟩ := secondFinite.get axis
  exact ⟨summand + other, by rw [get_add, isSummand, isOther, Exact.real_add_real]⟩

theorem IsFinite.mul {first second : Vec3 Exact} (firstFinite : first.IsFinite)
    (secondFinite : second.IsFinite) : (first * second).IsFinite := by
  refine isFinite_of_get fun axis => ?_
  obtain ⟨factor, isFactor⟩ := firstFinite.get axis
  obtain ⟨other, isOther⟩ := secondFinite.get axis
  exact ⟨factor * other, by rw [get_mul, isFactor, isOther, Exact.real_mul_real]⟩

theorem IsFinite.smul {vector : Vec3 Exact} (finite : vector.IsFinite) (factor : ℝ) :
    (Exact.real factor • vector).IsFinite := by
  refine isFinite_of_get fun axis => ?_
  obtain ⟨number, isNumber⟩ := finite.get axis
  exact ⟨factor * number, by rw [get_smul, isNumber, Exact.real_mul_real]⟩

end Vec3

end RayTracer
