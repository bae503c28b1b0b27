import RayTracer.Box
import RayTracer.Proofs.Exact.Directions

/-!
# The slab test

In exact arithmetic the slab test decides a geometric question. A direction
component below the tolerance counts as zero, and every other one as it is; the
line that a ray then follows is inside a box with finite corners at a set of
parameters that is empty or a stretch of the line. Clipping computes that set
(`Span.represents_clip`), and a ray meets the box exactly when the line is
inside the box at some positive parameter and at some parameter before the
bound (`Box.meets_iff`). The empty box is never met (`Box.meets_empty`).

For a positive bound one parameter serves for both, because a line that is
inside a box twice is inside it all the way between. So the test answers
whether the box contains a point of the line strictly between the origin and
the bound (`Box.meets_iff_exists_point`).
-/

set_option autoImplicit false

namespace RayTracer

open Exact

/-- A direction component as the slab test takes it: zero below the tolerance. -/
noncomputable def flushed (direction : ℝ) : ℝ := if |direction| < 1e-9 then 0 else direction

theorem flushed_of_lt {direction : ℝ} (small : |direction| < 1e-9) : flushed direction = 0 :=
  if_pos small

theorem flushed_of_not_lt {direction : ℝ} (large : ¬|direction| < 1e-9) :
    flushed direction = direction :=
  if_neg large

/-- The line from an origin along a flushed direction is between two planes at a parameter. -/
def InSlab (lower upper origin direction lambda : ℝ) : Prop :=
  lower ≤ origin + lambda * flushed direction ∧ origin + lambda * flushed direction ≤ upper

namespace Span

/-- A parameter belongs to a stretch of a line. -/
def Holds (span : Span Exact) (lambda : ℝ) : Prop :=
  span.enter ≤ real lambda ∧ real lambda ≤ span.leave

/-- A stretch of a line that has finite points. -/
structure Proper (span : Span Exact) : Prop where
  ordered : span.enter ≤ span.leave
  enters : span.enter < infinity
  leaves : negInfinity < span.leave

/-- The result of clipping is the set of points with a property: nothing is left
when there are none, and otherwise a stretch of the line that has them. -/
def Represents (points : ℝ → Prop) : Option (Span Exact) → Prop
  | none => ∀ lambda, ¬points lambda
  | some span => span.Proper ∧ ∀ lambda, span.Holds lambda ↔ points lambda

theorem represents_line : Represents (fun _ => True) (some (line : Span Exact)) :=
  ⟨⟨trivial, trivial, trivial⟩, fun _ => ⟨fun _ => trivial, fun _ => ⟨trivial, trivial⟩⟩⟩

/-- Clipping further keeps the points that the further step keeps. -/
theorem Represents.bind {points further : ℝ → Prop} {result : Option (Span Exact)}
    {step : Span Exact → Option (Span Exact)} (represents : Represents points result)
    (clips : ∀ span, Represents points (some span) →
      Represents (fun lambda => points lambda ∧ further lambda) (step span)) :
    Represents (fun lambda => points lambda ∧ further lambda) (result.bind step) := by
  cases result with
  | none => exact fun lambda both => represents lambda both.1
  | some span => exact clips span represents

/-- A proper stretch is bounded by numbers where it is bounded. -/
theorem Proper.cases {span : Span Exact} (proper : span.Proper) :
    (∃ enter leave, enter ≤ leave ∧ span = ⟨real enter, real leave⟩) ∨
      (∃ enter, span = ⟨real enter, infinity⟩) ∨ (∃ leave, span = ⟨negInfinity, real leave⟩) ∨
      span = ⟨negInfinity, infinity⟩ := by
  obtain ⟨enter, leave⟩ := span
  obtain ⟨ordered, enters, leaves⟩ := proper
  cases enter with
  | undefined => exact enters.elim
  | infinity => exact enters.elim
  | negInfinity =>
    cases leave with
    | undefined => exact leaves.elim
    | negInfinity => exact leaves.elim
    | real leave => exact .inr (.inr (.inl ⟨leave, rfl⟩))
    | infinity => exact .inr (.inr (.inr rfl))
  | real enter =>
    cases leave with
    | undefined => exact leaves.elim
    | negInfinity => exact leaves.elim
    | real leave => exact .inl ⟨enter, leave, ordered, rfl⟩
    | infinity => exact .inr (.inl ⟨enter, rfl⟩)

theorem Proper.zero_lt_leave_iff {span : Span Exact} (proper : span.Proper) :
    0 < span.leave ↔ ∃ lambda, 0 < lambda ∧ span.Holds lambda := by
  rw [zero_eq_real]
  constructor
  · intro positive
    obtain ⟨enter, leave, ordered, rfl⟩ | ⟨enter, rfl⟩ | ⟨leave, rfl⟩ | rfl := proper.cases
    · exact ⟨leave, positive, ordered, le_refl leave⟩
    · exact ⟨max enter 1, lt_max_of_lt_right one_pos, le_max_left enter 1, trivial⟩
    · exact ⟨leave, positive, trivial, le_refl leave⟩
    · exact ⟨1, one_pos, trivial, trivial⟩
  · rintro ⟨lambda, positive, holds⟩
    exact Exact.lt_of_lt_of_le (real_lt_real.mpr positive) holds.2

theorem Proper.enter_lt_iff {span : Span Exact} (proper : span.Proper) (bound : Exact) :
    span.enter < bound ↔ ∃ lambda, real lambda < bound ∧ span.Holds lambda := by
  constructor
  · intro before
    obtain ⟨enter, leave, ordered, rfl⟩ | ⟨enter, rfl⟩ | ⟨leave, rfl⟩ | rfl := proper.cases
    · exact ⟨enter, before, le_refl enter, ordered⟩
    · exact ⟨enter, before, le_refl enter, trivial⟩
    · cases bound with
      | undefined => exact before.elim
      | negInfinity => exact before.elim
      | real bound =>
        exact ⟨min leave (bound - 1), (min_le_right _ _).trans_lt (sub_one_lt bound), trivial,
          real_le_real.mpr (min_le_left _ _)⟩
      | infinity => exact ⟨leave, trivial, trivial, le_refl leave⟩
    · cases bound with
      | undefined => exact before.elim
      | negInfinity => exact before.elim
      | real bound => exact ⟨bound - 1, sub_one_lt bound, trivial, trivial⟩
      | infinity => exact ⟨0, trivial, trivial, trivial⟩
  · rintro ⟨lambda, before, holds⟩
    exact Exact.lt_of_le_of_lt holds.1 before

/-! ## Clipping -/

/-- Clipping to the parameters between two numbers. -/
theorem represents_between {points : ℝ → Prop} {span : Span Exact}
    (represents : Represents points (some span)) (near far : ℝ) :
    Represents (fun lambda => points lambda ∧ near ≤ lambda ∧ lambda ≤ far)
      (let enter := Scalar.maxNum span.enter (real near)
       let leave := Scalar.minNum span.leave (real far)
       if leave < enter then none else some ⟨enter, leave⟩) := by
  obtain ⟨proper, holds⟩ := represents
  have enterDefined : span.enter.Defined := (lt_iff.mp proper.enters).1
  have leaveDefined : span.leave.Defined := (lt_iff.mp proper.leaves).2.1
  have later (lambda : ℝ) : Scalar.maxNum span.enter (real near) ≤ real lambda ↔
      span.enter ≤ real lambda ∧ near ≤ lambda :=
    maxNum_le_iff enterDefined (defined_real near)
  have earlier (lambda : ℝ) : real lambda ≤ Scalar.minNum span.leave (real far) ↔
      real lambda ≤ span.leave ∧ lambda ≤ far :=
    le_minNum_iff leaveDefined (defined_real far)
  have notLess := Exact.not_lt (defined_minNum leaveDefined (defined_real far))
    (defined_maxNum enterDefined (defined_real near))
  dsimp only
  split
  · rename_i crossed
    rintro lambda ⟨inside, above, below⟩
    have inside := (holds lambda).mpr inside
    exact notLess.mpr (Exact.le_trans ((later lambda).mpr ⟨inside.1, above⟩)
      ((earlier lambda).mpr ⟨inside.2, below⟩)) crossed
  · rename_i ordered
    refine ⟨⟨notLess.mp ordered, ?_, ?_⟩, ?_⟩
    · change Scalar.maxNum span.enter (real near) < infinity
      rw [maxNum_of_defined enterDefined]
      split
      · trivial
      · exact proper.enters
    · change negInfinity < Scalar.minNum span.leave (real far)
      rw [minNum_of_defined leaveDefined]
      split
      · trivial
      · exact proper.leaves
    · intro lambda
      exact (and_congr (later lambda) (earlier lambda)).trans
        (and_and_and_comm.trans (and_congr_left' (holds lambda)))

/-- Clipping against a slab keeps the points of a stretch that are in the slab. -/
theorem represents_clip {points : ℝ → Prop} {span : Span Exact}
    (represents : Represents points (some span)) (lower upper origin direction : ℝ) :
    Represents (fun lambda => points lambda ∧ InSlab lower upper origin direction lambda)
      (span.clip (real lower) (real upper) (real origin) (real direction)) := by
  simp only [clip, abs_real, epsilon_eq_real, real_lt_real]
  split
  · rename_i small
    simp only [InSlab, flushed_of_lt small, mul_zero, add_zero]
    split
    · rename_i outside
      rintro lambda ⟨-, above, below⟩
      exact outside.elim above.not_gt below.not_gt
    · rename_i inside
      rw [not_or, not_lt, not_lt] at inside
      simpa only [inside, and_true] using represents
  · rename_i large
    have nonzero : direction ≠ 0 := by
      rintro rfl
      norm_num at large
    simp only [InSlab, flushed_of_not_lt large, one_eq_real, zero_eq_real, real_div_real nonzero,
      real_sub_real, real_mul_real, real_lt_real, decide_eq_true_eq]
    obtain negative | positive := lt_or_gt_of_ne nonzero
    · have inverse : 1 / direction < 0 := one_div_neg.mpr negative
      have slab (lambda : ℝ) :
          lower ≤ origin + lambda * direction ∧ origin + lambda * direction ≤ upper ↔
            (upper - origin) * (1 / direction) ≤ lambda ∧
              lambda ≤ (lower - origin) * (1 / direction) := by
        rw [mul_one_div, mul_one_div, div_le_iff_of_neg negative, le_div_iff_of_neg negative,
          sub_le_iff_le_add', le_sub_iff_add_le', and_comm]
      simp only [inverse, if_true, slab]
      exact represents_between represents _ _
    · have inverse : ¬1 / direction < 0 := (one_div_pos.mpr positive).not_gt
      have slab (lambda : ℝ) :
          lower ≤ origin + lambda * direction ∧ origin + lambda * direction ≤ upper ↔
            (lower - origin) * (1 / direction) ≤ lambda ∧
              lambda ≤ (upper - origin) * (1 / direction) := by
        rw [mul_one_div, mul_one_div, div_le_iff₀ positive, le_div_iff₀ positive,
          sub_le_iff_le_add', le_sub_iff_add_le']
      simp only [inverse, if_false, slab]
      exact represents_between represents _ _

/-- Nothing of a line is left after clipping against a slab turned inside out. -/
theorem clip_line_inverted (origin direction : ℝ) :
    line.clip infinity negInfinity (real origin) (real direction) = none := by
  simp only [clip, abs_real, epsilon_eq_real, real_lt_real]
  split
  · exact if_pos (.inl trivial)
  · rename_i large
    have nonzero : direction ≠ 0 := by
      rintro rfl
      norm_num at large
    simp only [line, scalarInfinity_eq, neg_infinity_eq, one_eq_real, zero_eq_real,
      real_div_real nonzero, infinity_sub_real, negInfinity_sub_real, infinity_mul_real,
      negInfinity_mul_real, real_lt_real, decide_eq_true_eq]
    have below : negInfinity < infinity := trivial
    have crossed : Scalar.minNum infinity negInfinity < Scalar.maxNum negInfinity infinity := by
      rw [maxNum_of_defined defined_negInfinity, minNum_of_defined defined_infinity,
        if_pos below, if_pos below]
      exact below
    obtain negative | positive := lt_or_gt_of_ne nonzero
    · have inverse : 1 / direction < 0 := one_div_neg.mpr negative
      simp only [inverse, if_true, signedInfinity_of_neg inverse,
        signedInfinity_of_pos (neg_pos.mpr inverse)]
      exact if_pos crossed
    · have inverse : 0 < 1 / direction := one_div_pos.mpr positive
      simp only [inverse.not_gt, if_false, signedInfinity_of_pos inverse,
        signedInfinity_of_neg (neg_neg_of_pos inverse)]
      exact if_pos crossed

end Span

/-! ## The test -/

namespace Box

/-- The line that a ray follows along its flushed direction is inside a box at a parameter. -/
def Passes (lower upper : Vec3 ℝ) (ray : Ray ℝ) (lambda : ℝ) : Prop :=
  ∀ axis : Axis, InSlab (lower.get axis) (upper.get axis) (ray.origin.get axis)
    (ray.direction.get axis) lambda

theorem represents_span (lower upper : Vec3 ℝ) (ray : Ray ℝ) :
    Span.Represents (Passes lower upper ray)
      (span ⟨.ofReal lower, .ofReal upper⟩ (.ofReal ray)) := by
  have clips (axis : Axis) {points : ℝ → Prop} (part : Span Exact)
      (represents : Span.Represents points (some part)) :
      Span.Represents (fun lambda => points lambda ∧ InSlab (lower.get axis) (upper.get axis)
          (ray.origin.get axis) (ray.direction.get axis) lambda)
        (clip ⟨.ofReal lower, .ofReal upper⟩ (.ofReal ray) axis part) := by
    simp only [clip, Ray.ofReal, Vec3.get_ofReal]
    exact Span.represents_clip represents _ _ _ _
  have chain := ((clips .x _ Span.represents_line).bind (clips .y)).bind (clips .z)
  rw [Option.bind_assoc] at chain
  have axes : Passes lower upper ray = fun lambda => ((True ∧ InSlab (lower.get .x) (upper.get .x)
      (ray.origin.get .x) (ray.direction.get .x) lambda) ∧ InSlab (lower.get .y) (upper.get .y)
      (ray.origin.get .y) (ray.direction.get .y) lambda) ∧ InSlab (lower.get .z) (upper.get .z)
      (ray.origin.get .z) (ray.direction.get .z) lambda := by
    funext lambda
    refine propext ⟨fun passes => ⟨⟨⟨trivial, passes .x⟩, passes .y⟩, passes .z⟩, ?_⟩
    rintro ⟨⟨⟨-, acrossX⟩, acrossY⟩, acrossZ⟩ axis
    cases axis <;> assumption
  rw [axes]
  exact chain

/-- **A ray meets a box exactly when the line along its flushed direction is inside
the box at some positive parameter and at some parameter before the bound.** -/
theorem meets_iff (lower upper : Vec3 ℝ) (ray : Ray ℝ) (bound : Exact) :
    meets ⟨.ofReal lower, .ofReal upper⟩ (.ofReal ray) bound = true ↔
      (∃ lambda, 0 < lambda ∧ Passes lower upper ray lambda) ∧
        ∃ lambda, real lambda < bound ∧ Passes lower upper ray lambda := by
  have represents := represents_span lower upper ray
  unfold meets
  split
  · rename_i missed
    rw [missed] at represents
    simp only [Bool.false_eq_true, false_iff]
    rintro ⟨⟨lambda, -, passes⟩, -⟩
    exact represents lambda passes
  · rename_i inside found
    rw [found] at represents
    obtain ⟨proper, holds⟩ := represents
    rw [decide_eq_true_iff, proper.zero_lt_leave_iff, proper.enter_lt_iff]
    simp only [holds]

/-- The empty box is never met. -/
theorem meets_empty (ray : Ray ℝ) (bound : Exact) :
    meets (empty : Box Exact) (.ofReal ray) bound = false := by
  have missed : span (empty : Box Exact) (.ofReal ray) = none := by
    change (Span.clip _ _ _ _ _).bind _ = none
    have first := Span.clip_line_inverted ray.origin.x ray.direction.x
    exact congrArg (Option.bind · _) first
  rw [meets, missed]

end Box

/-! ## The points of a box -/

/-- The ray along the direction that the slab test takes for that of a ray. -/
noncomputable def Ray.flush (ray : Ray ℝ) : Ray ℝ := ⟨ray.origin, ray.direction.map flushed⟩

/-- A line that is between two planes twice is between them all the way between. -/
theorem InSlab.between {lower upper origin direction early late lambda : ℝ}
    (atEarly : InSlab lower upper origin direction early)
    (atLate : InSlab lower upper origin direction late) (after : early ≤ lambda)
    (before : lambda ≤ late) : InSlab lower upper origin direction lambda := by
  obtain ⟨aboveEarly, belowEarly⟩ := atEarly
  obtain ⟨aboveLate, belowLate⟩ := atLate
  obtain negative | nonneg := lt_or_ge (flushed direction) 0
  · have fromLate : late * flushed direction ≤ lambda * flushed direction :=
      mul_le_mul_of_nonpos_right before negative.le
    have toEarly : lambda * flushed direction ≤ early * flushed direction :=
      mul_le_mul_of_nonpos_right after negative.le
    exact ⟨by linarith, by linarith⟩
  · have fromEarly : early * flushed direction ≤ lambda * flushed direction :=
      mul_le_mul_of_nonneg_right after nonneg
    have toLate : lambda * flushed direction ≤ late * flushed direction :=
      mul_le_mul_of_nonneg_right before nonneg
    exact ⟨by linarith, by linarith⟩

namespace Box

/-- The empty box, or a box with finite corners, in order or not. -/
inductive Plain : Box Exact → Prop where
  | empty : Plain empty
  | finite (lower upper : Vec3 ℝ) : Plain ⟨.ofReal lower, .ofReal upper⟩

theorem contains_ofReal_iff {lower upper point : Vec3 ℝ} :
    contains ⟨.ofReal lower, .ofReal upper⟩ (.ofReal point) = true ↔
      ∀ axis : Axis, lower.get axis ≤ point.get axis ∧ point.get axis ≤ upper.get axis := by
  simp only [contains_iff_get, Vec3.get_ofReal, real_le_real]

/-- The empty box contains no finite point. -/
theorem contains_empty (point : Vec3 ℝ) : (empty : Box Exact).contains (.ofReal point) = false :=
  decide_eq_false fun inside => inside.1.1.elim

/-- The line along the flushed direction is inside a box where the box contains its point. -/
theorem passes_iff_contains {lower upper : Vec3 ℝ} {ray : Ray ℝ} {lambda : ℝ} :
    Passes lower upper ray lambda ↔ contains ⟨.ofReal lower, .ofReal upper⟩
      ((Ray.ofReal ray.flush).pointAt (real lambda)) = true := by
  rw [Ray.pointAt_ofReal, contains_ofReal_iff]
  refine forall_congr' fun axis => ?_
  rw [Ray.get_follow]
  cases axis <;> rfl

/-- A line that is inside a box at a positive parameter and at a parameter before a
positive bound is inside it at a parameter between zero and the bound. -/
theorem exists_passes_inRange {lower upper : Vec3 ℝ} {ray : Ray ℝ} {bound : Exact}
    (positive : 0 < bound) {late early : ℝ} (lateAfter : 0 < late)
    (atLate : Passes lower upper ray late) (earlyBefore : real early < bound)
    (atEarly : Passes lower upper ray early) :
    ∃ lambda, 0 < lambda ∧ real lambda < bound ∧ Passes lower upper ray lambda := by
  by_cases lateBefore : real late < bound
  · exact ⟨late, lateAfter, lateBefore, atLate⟩
  obtain earlyAfter | notAfter := lt_or_ge 0 early
  · exact ⟨early, earlyAfter, earlyBefore, atEarly⟩
  -- The range is now the middle part of a stretch inside the box.
  cases bound with
  | undefined => exact positive.elim
  | negInfinity => exact earlyBefore.elim
  | infinity => exact absurd trivial lateBefore
  | real bound =>
    rw [zero_eq_real, real_lt_real] at positive
    rw [real_lt_real, not_lt] at lateBefore
    refine ⟨bound / 2, half_pos positive, half_lt_self positive, fun axis => ?_⟩
    exact (atEarly axis).between (atLate axis) (notAfter.trans (half_pos positive).le)
      ((half_lt_self positive).le.trans lateBefore)

/-- **For a positive bound, a ray meets a box exactly when the box contains a point of
the line along its flushed direction, strictly between the origin and the bound.** -/
theorem meets_iff_exists_point {box : Box Exact} (plain : box.Plain) (ray : Ray ℝ)
    {bound : Exact} (positive : 0 < bound) :
    box.meets (.ofReal ray) bound = true ↔
      ∃ lambda : ℝ, 0 < lambda ∧ real lambda < bound ∧
        box.contains ((Ray.ofReal ray.flush).pointAt (real lambda)) = true := by
  cases plain with
  | empty =>
    simp only [meets_empty, Ray.pointAt_ofReal, contains_empty, Bool.false_eq_true, and_false,
      exists_false]
  | finite lower upper =>
    simp only [meets_iff, ← passes_iff_contains]
    constructor
    · rintro ⟨⟨late, lateAfter, atLate⟩, early, earlyBefore, atEarly⟩
      exact exists_passes_inRange positive lateAfter atLate earlyBefore atEarly
    · rintro ⟨lambda, after, before, passes⟩
      exact ⟨⟨lambda, after, passes⟩, lambda, before, passes⟩

/-- A flat box in the distance is met by a ray that would pass beside it, were its
direction not taken for one across the box. -/
theorem meets_iff_exists_point_distantFlat :
    (⟨.ofReal ⟨-1, -1, 1e11⟩, .ofReal ⟨1, 1, 1e11⟩⟩ : Box Exact).meets
      (.ofReal ⟨⟨0, 0, 0⟩, ⟨1e-10, 0, 1⟩⟩) infinity = true := by
  have slight : flushed 1e-10 = 0 := flushed_of_lt (by rw [abs_of_pos] <;> norm_num)
  have level : flushed 0 = 0 := flushed_of_lt (by rw [abs_zero]; norm_num)
  have ahead : flushed 1 = 1 := flushed_of_not_lt (by rw [abs_one]; norm_num)
  have positive : (0 : Exact) < infinity := trivial
  refine (meets_iff_exists_point (.finite _ _) _ positive).mpr
    ⟨1e11, by norm_num, trivial, passes_iff_contains.mp fun axis => ?_⟩
  cases axis <;> simp only [InSlab, Vec3.get, slight, level, ahead] <;> norm_num

end Box

end RayTracer
