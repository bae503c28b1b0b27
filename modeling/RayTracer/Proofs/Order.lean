import RayTracer.Proofs.Binary64
import RayTracer.Proofs.Exact

/-!
# Scalars in order

A scalar is defined when it is a number or an infinity, not the result of an invalid
operation. The defined scalars are in one order between the two infinities
(`LinearScalar`). Different scalars may share a place in it, as the two zeros of floating
point do. Floating point values and exact scalars both have such an order, and the least
and the greatest of two scalars are what they should be in all of them.
-/

set_option autoImplicit false

namespace RayTracer

/-- A scalar that is not the result of an invalid operation. -/
def Scalar.IsDefined {S : Type} [Scalar S] (value : S) : Prop := isNaN value = false

open Scalar

/-- Scalars whose defined values are in one order between the two infinities. -/
class LinearScalar (S : Type) [Scalar S] : Prop where
  /-- The strict order is part of the other one. -/
  le_of_lt {first second : S} : first < second → first ≤ second
  /-- Defined scalars are comparable. -/
  le_of_not_lt {first second : S} :
    IsDefined first → IsDefined second → ¬second < first → first ≤ second
  /-- The order is transitive. -/
  le_trans {first second third : S} : first ≤ second → second ≤ third → first ≤ third
  /-- Infinity is defined. -/
  isDefined_infinity : IsDefined (infinity : S)
  /-- The negative of infinity is defined. -/
  isDefined_neg_infinity : IsDefined (-infinity : S)
  /-- Infinity is above all scalars. -/
  le_infinity {value : S} : IsDefined value → value ≤ infinity
  /-- The negative of infinity is below all scalars. -/
  neg_infinity_le {value : S} : IsDefined value → -infinity ≤ value

namespace LinearScalar

variable {S : Type} [Scalar S] [LinearScalar S] {first second : S}

protected theorem le_refl {value : S} (defined : IsDefined value) : value ≤ value := by
  by_cases below : value < value
  · exact le_of_lt below
  · exact le_of_not_lt defined defined below

/-! ## The least and the greatest of two scalars -/

omit [LinearScalar S] in
theorem minNum_of_isDefined (defined : IsDefined first) (second : S) :
    minNum first second = if second < first then second else first := by
  rw [IsDefined] at defined
  simp [minNum, defined]

omit [LinearScalar S] in
theorem maxNum_of_isDefined (defined : IsDefined first) (second : S) :
    maxNum first second = if first < second then second else first := by
  rw [IsDefined] at defined
  simp [maxNum, defined]

section Defined

variable (firstDefined : IsDefined first) (secondDefined : IsDefined second)
include firstDefined secondDefined

omit [LinearScalar S] in
theorem isDefined_minNum : IsDefined (minNum first second) := by
  rw [minNum_of_isDefined firstDefined]
  split <;> assumption

omit [LinearScalar S] in
theorem isDefined_maxNum : IsDefined (maxNum first second) := by
  rw [maxNum_of_isDefined firstDefined]
  split <;> assumption

theorem minNum_le : minNum first second ≤ first ∧ minNum first second ≤ second := by
  rw [minNum_of_isDefined firstDefined]
  split
  · rename_i below
    exact ⟨le_of_lt below, LinearScalar.le_refl secondDefined⟩
  · rename_i notBelow
    exact ⟨LinearScalar.le_refl firstDefined, le_of_not_lt firstDefined secondDefined notBelow⟩

theorem le_maxNum : first ≤ maxNum first second ∧ second ≤ maxNum first second := by
  rw [maxNum_of_isDefined firstDefined]
  split
  · rename_i below
    exact ⟨le_of_lt below, LinearScalar.le_refl secondDefined⟩
  · rename_i notBelow
    exact ⟨LinearScalar.le_refl firstDefined, le_of_not_lt secondDefined firstDefined notBelow⟩

end Defined

omit [LinearScalar S] in
theorem le_minNum {lower : S} (defined : IsDefined first) (leFirst : lower ≤ first)
    (leSecond : lower ≤ second) : lower ≤ minNum first second := by
  rw [minNum_of_isDefined defined]
  split <;> assumption

omit [LinearScalar S] in
theorem maxNum_le {upper : S} (defined : IsDefined first) (firstLe : first ≤ upper)
    (secondLe : second ≤ upper) : maxNum first second ≤ upper := by
  rw [maxNum_of_isDefined defined]
  split <;> assumption

end LinearScalar

/-! ## Floating point values -/

namespace Binary64

open Float.Model

theorem isDefined_iff {value : Float} : IsDefined value ↔ value.toModel.unpack ≠ .notANumber :=
  isNaN_eq_false_iff

/-- One value is at most another when both are numbers and it does not stand higher. -/
theorem le_iff_standing {first second : Float} :
    first ≤ second ↔ IsDefined first ∧ IsDefined second ∧
      standing first.toModel.unpack ≤ standing second.toModel.unpack := by
  rw [le_iff_compare, compare_eq_lt_iff, compare_eq_eq_iff, le_iff_lt_or_eq, isDefined_iff,
    isDefined_iff]
  tauto

theorem unpack_infinity : (infinity : Float).toModel.unpack = .infinity .positive := rfl

theorem unpack_neg_infinity : (-infinity : Float).toModel.unpack = .infinity .negative := rfl

/-- No number stands outside the two infinities. -/
theorem standing_bounds (value : UnpackedFloat) :
    standing (.infinity .negative) ≤ standing value ∧
      standing value ≤ standing (.infinity .positive) := by
  rcases value with ⟨_ | _⟩ | _ | ⟨_⟩ | ⟨_ | _, _, _, _⟩ <;>
    dsimp only [standing] <;>
    simp [Prod.Lex.toLex_le_toLex]

end Binary64

open Binary64 in
instance instLinearScalarFloat : LinearScalar Float where
  le_of_lt less := le_iff_compare.mpr (.inl (lt_iff_compare.mp less))
  le_of_not_lt {first second} firstDefined secondDefined notLess := by
    refine le_iff_standing.mpr ⟨firstDefined, secondDefined, not_lt.mp fun less => notLess ?_⟩
    exact lt_iff_compare.mpr ((compare_eq_lt_iff _ _).mpr
      ⟨isDefined_iff.mp secondDefined, isDefined_iff.mp firstDefined, less⟩)
  le_trans earlier later := by
    rw [le_iff_standing] at *
    exact ⟨earlier.1, later.2.1, earlier.2.2.trans later.2.2⟩
  isDefined_infinity := isDefined_iff.mpr (by rw [unpack_infinity]; nofun)
  isDefined_neg_infinity := isDefined_iff.mpr (by rw [unpack_neg_infinity]; nofun)
  le_infinity {value} defined := le_iff_standing.mpr
    ⟨defined, isDefined_iff.mpr (by rw [unpack_infinity]; nofun),
      unpack_infinity ▸ (standing_bounds value.toModel.unpack).2⟩
  neg_infinity_le {value} defined := le_iff_standing.mpr
    ⟨isDefined_iff.mpr (by rw [unpack_neg_infinity]; nofun), defined,
      unpack_neg_infinity ▸ (standing_bounds value.toModel.unpack).1⟩

/-! ## Exact scalars -/

theorem Exact.isDefined_iff {scalar : Exact} : IsDefined scalar ↔ scalar.Defined := by
  by_cases defined : scalar.Defined
  · simp [IsDefined, isNaN_eq_false defined, defined]
  · simp [IsDefined, isNaN_of_not_defined defined, defined]

open Exact in
instance instLinearScalarExact : LinearScalar Exact where
  le_of_lt := Exact.le_of_lt
  le_of_not_lt firstDefined secondDefined :=
    (Exact.not_lt (isDefined_iff.mp secondDefined) (isDefined_iff.mp firstDefined)).mp
  le_trans := Exact.le_trans
  isDefined_infinity := isDefined_iff.mpr defined_infinity
  isDefined_neg_infinity := isDefined_iff.mpr defined_negInfinity
  le_infinity defined := le_iff.mpr ⟨isDefined_iff.mp defined, defined_infinity, le_top⟩
  neg_infinity_le defined := le_iff.mpr ⟨defined_negInfinity, isDefined_iff.mp defined, bot_le⟩

end RayTracer
