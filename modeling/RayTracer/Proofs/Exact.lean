import RayTracer.Ray
import Mathlib.Analysis.SpecialFunctions.Pow.Real
import Mathlib.Analysis.SpecialFunctions.Trigonometric.Basic
import Mathlib.Data.EReal.Operations

/-!
# Exact scalars

The real numbers with two infinities and one value for the results of invalid
operations. These are the scalars of floating point arithmetic without rounding
and without a sign of zero: sums, products and comparisons of real numbers are
those of the real numbers, and the rules for infinities are the usual ones
(`infinity - infinity` and `0 * infinity` are invalid, a number divided by an
infinity is zero, and zero counts as positive when something is divided by it).
Invalid values are unordered.

Every definition of the ray tracer is a definition about exact scalars as well.
A vector is finite when its components are real numbers; `Vec3.ofReal` is the
finite vector with given components.
-/

set_option autoImplicit false

namespace RayTracer

/-- A real number, an infinity, or the result of an invalid operation. -/
inductive Exact where
  /-- The result of an invalid operation. -/
  | undefined
  /-- The value below all numbers. -/
  | negInfinity
  /-- A number. -/
  | real (value : ℝ)
  /-- The value above all numbers. -/
  | infinity

namespace Exact

/-! ## Operations -/

/-- The infinity on the side of zero that a number is on. -/
noncomputable def signedInfinity (side : ℝ) : Exact :=
  if 0 < side then .infinity else if side < 0 then .negInfinity else .undefined

/-- The sum of two scalars. -/
protected noncomputable def add : Exact → Exact → Exact
  | .real first, .real second => .real (first + second)
  | .real _, .infinity | .infinity, .real _ | .infinity, .infinity => .infinity
  | .real _, .negInfinity | .negInfinity, .real _ | .negInfinity, .negInfinity => .negInfinity
  | _, _ => .undefined

/-- The scalar with the other sign. -/
protected noncomputable def neg : Exact → Exact
  | .undefined => .undefined
  | .negInfinity => .infinity
  | .real value => .real (-value)
  | .infinity => .negInfinity

/-- The product of two scalars. -/
protected noncomputable def mul : Exact → Exact → Exact
  | .real first, .real second => .real (first * second)
  | .real value, .infinity | .infinity, .real value => signedInfinity value
  | .real value, .negInfinity | .negInfinity, .real value => signedInfinity (-value)
  | .infinity, .infinity | .negInfinity, .negInfinity => .infinity
  | .infinity, .negInfinity | .negInfinity, .infinity => .negInfinity
  | _, _ => .undefined

/-- The quotient of two scalars. Zero counts as a positive divisor. -/
protected noncomputable def div : Exact → Exact → Exact
  | .real first, .real second => if second = 0 then signedInfinity first else .real (first / second)
  | .real _, .infinity | .real _, .negInfinity => .real 0
  | .infinity, .real value => if value < 0 then .negInfinity else .infinity
  | .negInfinity, .real value => if value < 0 then .infinity else .negInfinity
  | _, _ => .undefined

/-- The order of the scalars. It leaves out the results of invalid operations. -/
protected def less : Exact → Exact → Prop
  | .real first, .real second => first < second
  | .negInfinity, .real _ | .negInfinity, .infinity | .real _, .infinity => True
  | _, _ => False

/-- A scalar comes before another one or is the same number or infinity. -/
protected def atMost : Exact → Exact → Prop
  | .real first, .real second => first ≤ second
  | .negInfinity, .negInfinity | .negInfinity, .real _ | .negInfinity, .infinity => True
  | .real _, .infinity | .infinity, .infinity => True
  | _, _ => False

open scoped Classical in
/-- Two scalars are the same number or the same infinity. -/
protected noncomputable def beq (first second : Exact) : Bool :=
  decide (first = second ∧ first ≠ .undefined)

/-- A function of the real numbers, applied to a number. -/
protected noncomputable def lift (function : ℝ → Exact) : Exact → Exact
  | .real value => function value
  | _ => .undefined

/-- The magnitude of a scalar. -/
protected noncomputable def abs : Exact → Exact
  | .undefined => .undefined
  | .real value => .real |value|
  | _ => .infinity

/-- The square root, invalid below zero. -/
protected noncomputable def sqrt : Exact → Exact
  | .real value => if value < 0 then .undefined else .real √value
  | .infinity => .infinity
  | _ => .undefined

/-- The exponential function. -/
protected noncomputable def exp : Exact → Exact
  | .undefined => .undefined
  | .negInfinity => .real 0
  | .real value => .real (Real.exp value)
  | .infinity => .infinity

open scoped Classical in
/-- The power of a number with a number for exponent. Anything to the power of
zero is one; zero to a negative power is infinite; a negative number has powers
with whole exponents only. -/
protected noncomputable def pow : Exact → Exact → Exact
  | .real base, .real exponent =>
    if exponent = 0 then .real 1
    else if base = 0 then (if exponent < 0 then .infinity else .real 0)
    else if 0 < base ∨ ∃ whole : ℤ, exponent = whole then .real (base ^ exponent)
    else .undefined
  | _, .real exponent => if exponent = 0 then .real 1 else .undefined
  | _, _ => .undefined

/-- The place of a scalar that is not a number in the total order. -/
def rank : Exact → Nat
  | .undefined => 0
  | .negInfinity => 1
  | .real _ => 2
  | .infinity => 3

/-- The total order of all scalars: invalid results come first. -/
protected noncomputable def totalCompare : Exact → Exact → Ordering
  | .real first, .real second => compare first second
  | first, second => compare first.rank second.rank

/-- Exact numbers are scalars. -/
noncomputable instance instScalarExact : Scalar Exact where
  add := Exact.add
  sub first second := Exact.add first (Exact.neg second)
  mul := Exact.mul
  div := Exact.div
  neg := Exact.neg
  lt := Exact.less
  le := Exact.atMost
  beq := Exact.beq
  decidableLT := fun _ _ => Classical.propDecidable _
  decidableLE := fun _ _ => Classical.propDecidable _
  ofNat value := .real value
  ofScientific mantissa negativeExponent exponent :=
    .real (OfScientific.ofScientific mantissa negativeExponent exponent)
  infinity := .infinity
  abs := Exact.abs
  sqrt := Exact.sqrt
  exp := Exact.exp
  sin := Exact.lift fun value => .real (Real.sin value)
  cos := Exact.lift fun value => .real (Real.cos value)
  tan := Exact.lift fun value => if Real.cos value = 0 then .undefined else .real (Real.tan value)
  pow := Exact.pow
  totalCompare := Exact.totalCompare

/-! ## Numbers among the scalars -/

@[simp] theorem ofNat_eq_real (value : ℕ) : (Scalar.ofNat value : Exact) = real value := rfl

@[simp] theorem zero_eq_real : (0 : Exact) = real 0 := congrArg real Nat.cast_zero

@[simp] theorem one_eq_real : (1 : Exact) = real 1 := congrArg real Nat.cast_one

theorem epsilon_eq_real : (epsilon : Exact) = real 1e-9 := rfl

@[simp] theorem real_add_real (first second : ℝ) :
    (real first + real second : Exact) = real (first + second) := rfl

@[simp] theorem neg_real (value : ℝ) : (-real value : Exact) = real (-value) := rfl

@[simp] theorem real_sub_real (first second : ℝ) :
    (real first - real second : Exact) = real (first - second) :=
  congrArg real (sub_eq_add_neg first second).symm

@[simp] theorem real_mul_real (first second : ℝ) :
    (real first * real second : Exact) = real (first * second) := rfl

@[simp] theorem real_div_real {first second : ℝ} (nonzero : second ≠ 0) :
    (real first / real second : Exact) = real (first / second) :=
  if_neg nonzero

@[simp] theorem abs_real (value : ℝ) : (Scalar.abs (real value) : Exact) = real |value| := rfl

theorem sqrt_real {value : ℝ} (nonnegative : 0 ≤ value) :
    (Scalar.sqrt (real value) : Exact) = real √value :=
  if_neg nonnegative.not_gt

@[simp] theorem real_beq_real {first second : ℝ} :
    (real first == real second) = true ↔ first = second := by
  change Exact.beq _ _ = true ↔ _
  simp [Exact.beq]

@[simp] theorem scalarInfinity_eq : (Scalar.infinity : Exact) = infinity := rfl

@[simp] theorem neg_infinity_eq : (-infinity : Exact) = negInfinity := rfl

theorem signedInfinity_of_pos {side : ℝ} (positive : 0 < side) :
    signedInfinity side = infinity :=
  if_pos positive

theorem signedInfinity_of_neg {side : ℝ} (negative : side < 0) :
    signedInfinity side = negInfinity := by
  rw [signedInfinity, if_neg negative.not_gt, if_pos negative]

@[simp] theorem infinity_sub_real (value : ℝ) : (infinity - real value : Exact) = infinity := rfl

@[simp] theorem negInfinity_sub_real (value : ℝ) :
    (negInfinity - real value : Exact) = negInfinity := rfl

@[simp] theorem infinity_mul_real (value : ℝ) :
    (infinity * real value : Exact) = signedInfinity value := rfl

@[simp] theorem negInfinity_mul_real (value : ℝ) :
    (negInfinity * real value : Exact) = signedInfinity (-value) := rfl

theorem signedInfinity_ne_real (side value : ℝ) : signedInfinity side ≠ real value := by
  unfold signedInfinity
  split
  · exact Exact.noConfusion
  · split <;> exact Exact.noConfusion

/-! Only numbers have a number for their sum, difference or product. -/

section Numbers

variable {first second : Exact} {value : ℝ}

theorem exists_of_add_eq_real (isSum : first + second = real value) :
    ∃ one other, first = real one ∧ second = real other := by
  cases first <;> cases second <;> first | exact ⟨_, _, rfl, rfl⟩ | cases isSum

theorem exists_of_sub_eq_real (isDifference : first - second = real value) :
    ∃ one other, first = real one ∧ second = real other := by
  cases first <;> cases second <;> first | exact ⟨_, _, rfl, rfl⟩ | cases isDifference

theorem exists_of_mul_eq_real (isProduct : first * second = real value) :
    ∃ one other, first = real one ∧ second = real other := by
  cases first <;> cases second <;>
    first
    | exact ⟨_, _, rfl, rfl⟩
    | exact absurd isProduct (signedInfinity_ne_real _ _)
    | cases isProduct

end Numbers

@[simp] theorem real_lt_real {first second : ℝ} :
    (real first < real second : Prop) ↔ first < second := Iff.rfl

@[simp] theorem real_le_real {first second : ℝ} :
    (real first ≤ real second : Prop) ↔ first ≤ second := Iff.rfl

/-! ## The order

Away from invalid results the order is that of the extended real numbers. -/

/-- A scalar that is not the result of an invalid operation. -/
def Defined (scalar : Exact) : Prop := scalar ≠ .undefined

/-- The extended real number that a scalar stands for. -/
noncomputable def toEReal : Exact → EReal
  | .undefined => 0
  | .negInfinity => ⊥
  | .real value => value
  | .infinity => ⊤

@[simp] theorem defined_real (value : ℝ) : (real value).Defined := Exact.noConfusion

@[simp] theorem defined_infinity : infinity.Defined := Exact.noConfusion

@[simp] theorem defined_negInfinity : negInfinity.Defined := Exact.noConfusion

theorem lt_iff {first second : Exact} :
    first < second ↔ first.Defined ∧ second.Defined ∧ first.toEReal < second.toEReal := by
  change Exact.less first second ↔ _
  cases first <;> cases second <;> simp [Exact.less, Defined, toEReal]

theorem le_iff {first second : Exact} :
    first ≤ second ↔ first.Defined ∧ second.Defined ∧ first.toEReal ≤ second.toEReal := by
  change Exact.atMost first second ↔ _
  cases first <;> cases second <;> simp [Exact.atMost, Defined, toEReal]

theorem toEReal_injective {first second : Exact} (firstDefined : first.Defined)
    (secondDefined : second.Defined) (equal : first.toEReal = second.toEReal) :
    first = second := by
  cases first <;> cases second <;> simp_all [Defined, toEReal]

protected theorem le_refl {scalar : Exact} (defined : scalar.Defined) : scalar ≤ scalar :=
  le_iff.mpr ⟨defined, defined, le_rfl⟩

protected theorem lt_trans {first second third : Exact} (earlier : first < second)
    (later : second < third) : first < third := by
  rw [lt_iff] at *
  exact ⟨earlier.1, later.2.1, earlier.2.2.trans later.2.2⟩

instance instIsTransExact : IsTrans Exact (· < ·) := ⟨fun _ _ _ => Exact.lt_trans⟩

protected theorem le_trans {first second third : Exact} (earlier : first ≤ second)
    (later : second ≤ third) : first ≤ third := by
  rw [le_iff] at *
  exact ⟨earlier.1, later.2.1, earlier.2.2.trans later.2.2⟩

protected theorem lt_of_lt_of_le {first second third : Exact} (earlier : first < second)
    (later : second ≤ third) : first < third := by
  rw [le_iff] at later
  rw [lt_iff] at *
  exact ⟨earlier.1, later.2.1, earlier.2.2.trans_le later.2.2⟩

protected theorem lt_of_le_of_lt {first second third : Exact} (earlier : first ≤ second)
    (later : second < third) : first < third := by
  rw [le_iff] at earlier
  rw [lt_iff] at *
  exact ⟨earlier.1, later.2.1, earlier.2.2.trans_lt later.2.2⟩

protected theorem le_of_lt {first second : Exact} (less : first < second) : first ≤ second := by
  rw [lt_iff] at less
  exact le_iff.mpr ⟨less.1, less.2.1, less.2.2.le⟩

protected theorem le_antisymm {first second : Exact} (above : first ≤ second)
    (below : second ≤ first) : first = second := by
  rw [le_iff] at *
  exact toEReal_injective above.1 below.1 (le_antisymm above.2.2 below.2.2)

/-- Defined scalars are comparable. -/
protected theorem not_lt {first second : Exact} (firstDefined : first.Defined)
    (secondDefined : second.Defined) : ¬first < second ↔ second ≤ first := by
  rw [lt_iff, le_iff]
  simp [firstDefined, secondDefined]

protected theorem not_lt_of_le {first second : Exact} (above : second ≤ first) :
    ¬first < second :=
  (Exact.not_lt (le_iff.mp above).2.1 (le_iff.mp above).1).mpr above

theorem add_real_le_real_iff {scalar : Exact} {summand total : ℝ} :
    scalar + real summand ≤ real total ↔ scalar ≤ real (total - summand) := by
  cases scalar with
  | undefined => exact Iff.rfl
  | negInfinity => exact Iff.rfl
  | real value => rw [real_add_real, real_le_real, real_le_real, le_sub_iff_add_le]
  | infinity => exact Iff.rfl

/-! ## Greatest and least values -/

theorem isNaN_eq_false {scalar : Exact} (defined : scalar.Defined) :
    Scalar.isNaN scalar = false := by
  change (!Exact.beq scalar scalar) = false
  simpa [Exact.beq, Defined] using defined

theorem isNaN_of_not_defined {scalar : Exact} (notDefined : ¬scalar.Defined) :
    Scalar.isNaN scalar = true := by
  change (!Exact.beq scalar scalar) = true
  simpa [Exact.beq, Defined] using notDefined

theorem maxNum_of_defined {first : Exact} (firstDefined : first.Defined) (second : Exact) :
    Scalar.maxNum first second = if first < second then second else first := by
  simp only [Scalar.maxNum, isNaN_eq_false firstDefined, Bool.false_eq_true, or_false]

theorem minNum_of_defined {first : Exact} (firstDefined : first.Defined) (second : Exact) :
    Scalar.minNum first second = if second < first then second else first := by
  simp only [Scalar.minNum, isNaN_eq_false firstDefined, Bool.false_eq_true, or_false]

/-! The result of an invalid operation gives way to any other scalar. -/

theorem minNum_of_not_defined {first : Exact} (notDefined : ¬first.Defined) (second : Exact) :
    Scalar.minNum first second = second :=
  if_pos (.inr (isNaN_of_not_defined notDefined))

theorem maxNum_of_not_defined {first : Exact} (notDefined : ¬first.Defined) (second : Exact) :
    Scalar.maxNum first second = second :=
  if_pos (.inr (isNaN_of_not_defined notDefined))

theorem minNum_not_defined (first : Exact) {second : Exact} (notDefined : ¬second.Defined) :
    Scalar.minNum first second = first := by
  by_cases firstDefined : first.Defined
  · rw [minNum_of_defined firstDefined, if_neg fun less => notDefined (lt_iff.mp less).1]
  · rw [minNum_of_not_defined firstDefined, not_not.mp firstDefined, not_not.mp notDefined]

theorem maxNum_not_defined (first : Exact) {second : Exact} (notDefined : ¬second.Defined) :
    Scalar.maxNum first second = first := by
  by_cases firstDefined : first.Defined
  · rw [maxNum_of_defined firstDefined, if_neg fun less => notDefined (lt_iff.mp less).2.1]
  · rw [maxNum_of_not_defined firstDefined, not_not.mp firstDefined, not_not.mp notDefined]

theorem minNum_real (first second : ℝ) :
    Scalar.minNum (real first) (real second) = real (min first second) := by
  rw [minNum_of_defined (defined_real first)]
  split
  · rename_i less
    rw [min_eq_right (real_lt_real.mp less).le]
  · rename_i notLess
    rw [min_eq_left (not_lt.mp notLess)]

theorem maxNum_real (first second : ℝ) :
    Scalar.maxNum (real first) (real second) = real (max first second) := by
  rw [maxNum_of_defined (defined_real first)]
  split
  · rename_i less
    rw [max_eq_right (real_lt_real.mp less).le]
  · rename_i notLess
    rw [max_eq_left (not_lt.mp notLess)]

section Extremes

variable {first second : Exact} (firstDefined : first.Defined) (secondDefined : second.Defined)
include firstDefined secondDefined

theorem defined_maxNum : (Scalar.maxNum first second).Defined := by
  rw [maxNum_of_defined firstDefined]
  split <;> assumption

theorem defined_minNum : (Scalar.minNum first second).Defined := by
  rw [minNum_of_defined firstDefined]
  split <;> assumption

theorem toEReal_maxNum :
    (Scalar.maxNum first second).toEReal = max first.toEReal second.toEReal := by
  rw [maxNum_of_defined firstDefined]
  split
  · rename_i less
    exact (max_eq_right (lt_iff.mp less).2.2.le).symm
  · rename_i notLess
    exact (max_eq_left (le_iff.mp ((Exact.not_lt firstDefined secondDefined).mp notLess)).2.2).symm

theorem toEReal_minNum :
    (Scalar.minNum first second).toEReal = min first.toEReal second.toEReal := by
  rw [minNum_of_defined firstDefined]
  split
  · rename_i less
    exact (min_eq_right (lt_iff.mp less).2.2.le).symm
  · rename_i notLess
    exact (min_eq_left (le_iff.mp ((Exact.not_lt secondDefined firstDefined).mp notLess)).2.2).symm

theorem maxNum_le_iff {upper : Exact} :
    Scalar.maxNum first second ≤ upper ↔ first ≤ upper ∧ second ≤ upper := by
  simp only [le_iff, toEReal_maxNum firstDefined secondDefined,
    defined_maxNum firstDefined secondDefined, firstDefined, secondDefined, true_and, max_le_iff]
  exact and_and_left

theorem le_minNum_iff {lower : Exact} :
    lower ≤ Scalar.minNum first second ↔ lower ≤ first ∧ lower ≤ second := by
  simp only [le_iff, toEReal_minNum firstDefined secondDefined,
    defined_minNum firstDefined secondDefined, firstDefined, secondDefined, true_and, le_min_iff]
  exact and_and_left

end Extremes

/-- The least of three scalars does not depend on the order of the last two. -/
theorem minNum_right_comm (first second third : Exact) :
    Scalar.minNum (Scalar.minNum first second) third =
      Scalar.minNum (Scalar.minNum first third) second := by
  by_cases secondDefined : second.Defined
  swap
  · rw [minNum_not_defined _ secondDefined, minNum_not_defined _ secondDefined]
  by_cases thirdDefined : third.Defined
  swap
  · rw [minNum_not_defined _ thirdDefined, minNum_not_defined _ thirdDefined]
  by_cases firstDefined : first.Defined
  · refine toEReal_injective (defined_minNum (defined_minNum firstDefined secondDefined)
      thirdDefined) (defined_minNum (defined_minNum firstDefined thirdDefined) secondDefined) ?_
    rw [toEReal_minNum (defined_minNum firstDefined secondDefined) thirdDefined,
      toEReal_minNum (defined_minNum firstDefined thirdDefined) secondDefined,
      toEReal_minNum firstDefined secondDefined, toEReal_minNum firstDefined thirdDefined,
      min_right_comm]
  · rw [minNum_of_not_defined firstDefined, minNum_of_not_defined firstDefined]
    refine toEReal_injective (defined_minNum secondDefined thirdDefined)
      (defined_minNum thirdDefined secondDefined) ?_
    rw [toEReal_minNum secondDefined thirdDefined, toEReal_minNum thirdDefined secondDefined,
      min_comm]

/-- The greatest of three scalars does not depend on the order of the last two. -/
theorem maxNum_right_comm (first second third : Exact) :
    Scalar.maxNum (Scalar.maxNum first second) third =
      Scalar.maxNum (Scalar.maxNum first third) second := by
  by_cases secondDefined : second.Defined
  swap
  · rw [maxNum_not_defined _ secondDefined, maxNum_not_defined _ secondDefined]
  by_cases thirdDefined : third.Defined
  swap
  · rw [maxNum_not_defined _ thirdDefined, maxNum_not_defined _ thirdDefined]
  by_cases firstDefined : first.Defined
  · refine toEReal_injective (defined_maxNum (defined_maxNum firstDefined secondDefined)
      thirdDefined) (defined_maxNum (defined_maxNum firstDefined thirdDefined) secondDefined) ?_
    rw [toEReal_maxNum (defined_maxNum firstDefined secondDefined) thirdDefined,
      toEReal_maxNum (defined_maxNum firstDefined thirdDefined) secondDefined,
      toEReal_maxNum firstDefined secondDefined, toEReal_maxNum firstDefined thirdDefined,
      max_right_comm]
  · rw [maxNum_of_not_defined firstDefined, maxNum_of_not_defined firstDefined]
    refine toEReal_injective (defined_maxNum secondDefined thirdDefined)
      (defined_maxNum thirdDefined secondDefined) ?_
    rw [toEReal_maxNum secondDefined thirdDefined, toEReal_maxNum thirdDefined secondDefined,
      max_comm]

theorem minNum_infinity_left {scalar : Exact} (defined : scalar.Defined) :
    Scalar.minNum infinity scalar = scalar := by
  refine toEReal_injective (defined_minNum defined_infinity defined) defined ?_
  rw [toEReal_minNum defined_infinity defined]
  exact min_eq_right le_top

theorem minNum_infinity_right {scalar : Exact} (defined : scalar.Defined) :
    Scalar.minNum scalar infinity = scalar := by
  refine toEReal_injective (defined_minNum defined defined_infinity) defined ?_
  rw [toEReal_minNum defined defined_infinity]
  exact min_eq_left le_top

theorem maxNum_negInfinity_left {scalar : Exact} (defined : scalar.Defined) :
    Scalar.maxNum negInfinity scalar = scalar := by
  refine toEReal_injective (defined_maxNum defined_negInfinity defined) defined ?_
  rw [toEReal_maxNum defined_negInfinity defined]
  exact max_eq_right bot_le

theorem maxNum_negInfinity_right {scalar : Exact} (defined : scalar.Defined) :
    Scalar.maxNum scalar negInfinity = scalar := by
  refine toEReal_injective (defined_maxNum defined defined_negInfinity) defined ?_
  rw [toEReal_maxNum defined defined_negInfinity]
  exact max_eq_left bot_le

end Exact

/-! ## Finite vectors and rays -/

namespace Vec3

/-- The vector of exact scalars with given real components. -/
def ofReal (vector : Vec3 ℝ) : Vec3 Exact := vector.map .real

/-- A vector all of whose components are numbers. -/
def IsFinite (vector : Vec3 Exact) : Prop := ∃ components, vector = .ofReal components

theorem isFinite_ofReal (vector : Vec3 ℝ) : (ofReal vector).IsFinite := ⟨vector, rfl⟩

/-- Vectors with the same components are the same. -/
theorem ext_get {S : Type} {first second : Vec3 S}
    (same : ∀ axis : Axis, first.get axis = second.get axis) : first = second :=
  Vec3.ext (same .x) (same .y) (same .z)

@[simp] theorem get_ofReal (vector : Vec3 ℝ) (axis : Axis) :
    (ofReal vector).get axis = .real (vector.get axis) := by
  cases axis <;> rfl

/-- The difference of two real vectors. -/
noncomputable def minus (first second : Vec3 ℝ) : Vec3 ℝ := zipWith (· - ·) first second

/-- The inner product of two real vectors. -/
noncomputable def inner (first second : Vec3 ℝ) : ℝ :=
  first.x * second.x + first.y * second.y + first.z * second.z

/-- The cross product of two real vectors. -/
noncomputable def outer (first second : Vec3 ℝ) : Vec3 ℝ :=
  ⟨first.y * second.z - second.y * first.z, first.z * second.x - second.z * first.x,
    first.x * second.y - second.x * first.y⟩

@[simp] theorem get_minus (first second : Vec3 ℝ) (axis : Axis) :
    (minus first second).get axis = first.get axis - second.get axis := by
  cases axis <;> rfl

@[simp] theorem ofReal_sub_ofReal (first second : Vec3 ℝ) :
    ofReal first - ofReal second = ofReal (minus first second) := by
  refine ext_get fun axis => ?_
  cases axis <;> exact Exact.real_sub_real _ _

@[simp] theorem dot_ofReal (first second : Vec3 ℝ) :
    (ofReal first).dot (ofReal second) = .real (inner first second) := rfl

@[simp] theorem cross_ofReal (first second : Vec3 ℝ) :
    (ofReal first).cross (ofReal second) = ofReal (outer first second) := by
  refine ext_get fun axis => ?_
  cases axis <;> exact Exact.real_sub_real _ _

end Vec3

/-- All vectors of an array are finite. -/
def FiniteVertices (positions : Array (Vec3 Exact)) : Prop :=
  ∀ position ∈ positions, position.IsFinite

theorem finiteVertices_ofReal (positions : Array (Vec3 ℝ)) :
    FiniteVertices (positions.map .ofReal) := by
  intro position member
  obtain ⟨components, -, rfl⟩ := Array.mem_map.mp member
  exact components.isFinite_ofReal

/-- The point of a real ray at a parameter. -/
noncomputable def Ray.follow (ray : Ray ℝ) (lambda : ℝ) : Vec3 ℝ :=
  Vec3.zipWith (fun origin direction => origin + lambda * direction) ray.origin ray.direction

theorem Ray.get_follow (ray : Ray ℝ) (lambda : ℝ) (axis : Axis) :
    (ray.follow lambda).get axis = ray.origin.get axis + lambda * ray.direction.get axis := by
  cases axis <;> rfl

/-- The ray with given real origin and direction. -/
def Ray.ofReal (ray : Ray ℝ) : Ray Exact := ⟨.ofReal ray.origin, .ofReal ray.direction⟩

/-- A ray with a finite origin and a finite direction. -/
def Ray.IsFinite (ray : Ray Exact) : Prop := ray.origin.IsFinite ∧ ray.direction.IsFinite

theorem Ray.isFinite_ofReal (ray : Ray ℝ) : (ofReal ray).IsFinite :=
  ⟨Vec3.isFinite_ofReal _, Vec3.isFinite_ofReal _⟩

theorem Ray.IsFinite.eq_ofReal {ray : Ray Exact} (finite : ray.IsFinite) :
    ∃ numbers, ray = .ofReal numbers := by
  obtain ⟨⟨origin, isOrigin⟩, ⟨direction, isDirection⟩⟩ := finite
  exact ⟨⟨origin, direction⟩, Ray.ext isOrigin isDirection⟩

end RayTracer
