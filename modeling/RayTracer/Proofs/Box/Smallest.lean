import RayTracer.Box
import RayTracer.Proofs.Order

/-!
# The smallest box around points

The box that is worked out for a list of points contains them all, and lies within every
box that does (`Box.isSmallest_ofPoints`). One more point makes of the smallest box around
some points the smallest around all of them (`Box.IsSmallest.insert`), and without points
the empty box is the smallest.

This holds for scalars in one order, infinite ones included, as long as no coordinate is the
result of an invalid operation.
-/

set_option autoImplicit false

namespace RayTracer

open Scalar

variable {S : Type} [Scalar S]

/-- No component of a vector is the result of an invalid operation. -/
def Vec3.IsDefined (vector : Vec3 S) : Prop := ∀ axis : Axis, Scalar.IsDefined (vector.get axis)

namespace Box

/-- No component of the corners of a box is the result of an invalid operation. -/
def IsDefined (box : Box S) : Prop := box.lower.IsDefined ∧ box.upper.IsDefined

/-- A box contains some points and lies within every box that contains them. -/
structure IsSmallest (box : Box S) (points : List (Vec3 S)) : Prop where
  isDefined : box.IsDefined
  contains : ∀ point ∈ points, box.contains point = true
  within {other : Box S} (defined : other.IsDefined)
    (around : ∀ point ∈ points, other.contains point = true) (axis : Axis) :
    other.lower.get axis ≤ box.lower.get axis ∧ box.upper.get axis ≤ other.upper.get axis

theorem get_lower_insert (box : Box S) (point : Vec3 S) (axis : Axis) :
    (box.insert point).lower.get axis = minNum (box.lower.get axis) (point.get axis) := by
  cases axis <;> rfl

theorem get_upper_insert (box : Box S) (point : Vec3 S) (axis : Axis) :
    (box.insert point).upper.get axis = maxNum (box.upper.get axis) (point.get axis) := by
  cases axis <;> rfl

variable [LinearScalar S]

open LinearScalar

theorem isSmallest_empty : (empty : Box S).IsSmallest [] where
  isDefined := by
    constructor
    · intro axis
      cases axis <;> exact isDefined_infinity
    · intro axis
      cases axis <;> exact isDefined_neg_infinity
  contains point member := by cases member
  within {other} defined _ axis := by
    have lower := le_infinity (defined.1 axis)
    have upper := neg_infinity_le (defined.2 axis)
    cases axis <;> exact ⟨lower, upper⟩

/-- **One more point grows a smallest box to a smallest box.** -/
theorem IsSmallest.insert {box : Box S} {points : List (Vec3 S)} (smallest : box.IsSmallest points)
    {point : Vec3 S} (pointDefined : point.IsDefined) :
    (box.insert point).IsSmallest (points ++ [point]) where
  isDefined := by
    constructor
    · intro axis
      rw [get_lower_insert]
      exact isDefined_minNum (smallest.isDefined.1 axis) (pointDefined axis)
    · intro axis
      rw [get_upper_insert]
      exact isDefined_maxNum (smallest.isDefined.2 axis) (pointDefined axis)
  contains := by
    intro other member
    rw [contains_iff_get]
    intro axis
    have lower := minNum_le (smallest.isDefined.1 axis) (pointDefined axis)
    have upper := le_maxNum (smallest.isDefined.2 axis) (pointDefined axis)
    rw [get_lower_insert, get_upper_insert]
    rcases List.mem_append.mp member with earlier | last
    · obtain ⟨above, below⟩ := contains_iff_get.mp (smallest.contains other earlier) axis
      exact ⟨LinearScalar.le_trans lower.1 above, LinearScalar.le_trans below upper.1⟩
    · obtain rfl := List.mem_singleton.mp last
      exact ⟨lower.2, upper.2⟩
  within {other} defined around axis := by
    rw [List.forall_mem_append, List.forall_mem_singleton] at around
    obtain ⟨aroundPoints, aroundPoint⟩ := around
    obtain ⟨lower, upper⟩ := smallest.within defined aroundPoints axis
    obtain ⟨above, below⟩ := contains_iff_get.mp aroundPoint axis
    rw [get_lower_insert, get_upper_insert]
    exact ⟨le_minNum (smallest.isDefined.1 axis) lower above,
      maxNum_le (smallest.isDefined.2 axis) upper below⟩

/-- **The box worked out for a list of points is the smallest around them.** -/
theorem isSmallest_ofPoints {points : List (Vec3 S)}
    (defined : ∀ point ∈ points, point.IsDefined) : (ofPoints points).IsSmallest points := by
  induction points using List.reverseRecOn with
  | nil => exact isSmallest_empty
  | append_singleton points point ih =>
    rw [List.forall_mem_append, List.forall_mem_singleton] at defined
    rw [ofPoints, List.foldl_concat]
    exact (ih defined.1).insert defined.2

end Box

end RayTracer
