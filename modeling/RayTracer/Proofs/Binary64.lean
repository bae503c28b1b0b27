import RayTracer.Scalar.Binary64
import Mathlib.Data.Prod.Lex
import Mathlib.Algebra.Order.Group.Int
import Mathlib.Algebra.Ring.Int.Defs

/-!
# The order of floating point numbers

Floating point values that are numbers are compared by their standing: negative
infinity comes first, then the negative numbers by decreasing exponent and
mantissa, the two zeros, the positive numbers by increasing exponent and
mantissa, and infinity (`Binary64.compare_eq_lt_iff`). Values that are not
numbers compare to nothing. So the order is transitive on all values, and total on
numbers (`Binary64.le_iff_compare`).
-/

set_option autoImplicit false

namespace RayTracer

namespace Binary64

open Float.Model

/-- Where a value stands among the values that are numbers. -/
def standing : UnpackedFloat → ℤ ×ₗ ℤ ×ₗ ℤ
  | .infinity .negative => toLex (-2, toLex (0, 0))
  | .finite .negative mantissa exponent _ => toLex (-1, toLex (-exponent, -mantissa))
  | .zero _ | .notANumber => toLex (0, toLex (0, 0))
  | .finite .positive mantissa exponent _ => toLex (1, toLex (exponent, mantissa))
  | .infinity .positive => toLex (2, toLex (0, 0))

theorem ne_notANumber_iff (value : UnpackedFloat) :
    value ≠ .notANumber ↔ match value with | .notANumber => False | _ => True := by
  cases value with
  | notANumber => exact iff_of_false (fun differs => differs rfl) id
  | _ => exact iff_of_true nofun trivial

/-- One value is below another when both are numbers and it stands lower. -/
theorem compare_eq_lt_iff (first second : UnpackedFloat) :
    first.compare second = some .lt ↔
      first ≠ .notANumber ∧ second ≠ .notANumber ∧ standing first < standing second := by
  rw [ne_notANumber_iff, ne_notANumber_iff]
  rcases first with ⟨_ | _⟩ | _ | ⟨_⟩ | ⟨_ | _, _, _, _⟩ <;>
    rcases second with ⟨_ | _⟩ | _ | ⟨_⟩ | ⟨_ | _, _, _, _⟩ <;>
    dsimp only [UnpackedFloat.compare, standing] <;>
    simp [Prod.Lex.toLex_lt_toLex, Ordering.then_eq_lt, Ordering.then_eq_gt, compare_lt_iff_lt,
      compare_gt_iff_gt]
  rfl

theorem compare_trans {first second third : UnpackedFloat}
    (earlier : first.compare second = some .lt) (later : second.compare third = some .lt) :
    first.compare third = some .lt := by
  rw [compare_eq_lt_iff] at *
  exact ⟨earlier.1, later.2.1, earlier.2.2.trans later.2.2⟩

/-- Two values are equal when both are numbers and stand at the same place. The two zeros do. -/
theorem compare_eq_eq_iff (first second : UnpackedFloat) :
    first.compare second = some .eq ↔
      first ≠ .notANumber ∧ second ≠ .notANumber ∧ standing first = standing second := by
  rw [ne_notANumber_iff, ne_notANumber_iff]
  rcases first with ⟨_ | _⟩ | _ | ⟨_⟩ | ⟨_ | _, _, _, _⟩ <;>
    rcases second with ⟨_ | _⟩ | _ | ⟨_⟩ | ⟨_ | _, _, _, _⟩ <;>
    dsimp only [UnpackedFloat.compare, standing] <;>
    simp [Ordering.then_eq_eq, Ordering.swap_eq_eq]
  -- Infinities of the same sign are left.
  all_goals rfl

theorem lt_iff_compare {first second : Float} :
    first < second ↔ first.toModel.unpack.compare second.toModel.unpack = some .lt := by
  change decide (first.toModel.unpack.lt second.toModel.unpack = true) = true ↔ _
  rw [decide_eq_true_iff, UnpackedFloat.lt, beq_iff_eq]

theorem le_iff_compare {first second : Float} :
    first ≤ second ↔ first.toModel.unpack.compare second.toModel.unpack = some .lt ∨
      first.toModel.unpack.compare second.toModel.unpack = some .eq := by
  change decide (first.toModel.unpack.le second.toModel.unpack = true) = true ↔ _
  rw [decide_eq_true_iff, UnpackedFloat.le]
  rcases first.toModel.unpack.compare second.toModel.unpack with _ | _ | _ | _ <;> simp

theorem isNaN_eq_false_iff {value : Float} :
    Scalar.isNaN value = false ↔ value.toModel.unpack ≠ .notANumber := by
  change (!(value.toModel.unpack.compare value.toModel.unpack == some .eq)) = false ↔ _
  rw [Bool.not_eq_false', beq_iff_eq, compare_eq_eq_iff]
  simp

end Binary64

/-- The order of floating point values is transitive. -/
instance instIsTransFloat : IsTrans Float (· < ·) where
  trans _ _ _ earlier later := by
    rw [Binary64.lt_iff_compare] at earlier later ⊢
    exact Binary64.compare_trans earlier later

end RayTracer
