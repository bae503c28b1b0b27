import RayTracer.Camera
import RayTracer.Proofs.Exact.Directions

/-!
# The grid of a camera

In exact arithmetic a view has three axes that are perpendicular to each other: forward,
rightward and upward (`Axes`, `View.IsFinite.exists_axes`). The first has length one. The
other two have length one as well, unless the view looks along its own direction upwards and
cannot tell left from right.

A camera starts at the corner of the picture and moves on by steps and halves of steps. What
comes out is a grid around the forward axis (`Camera.rayThrough_expose`): the ray through a
pixel goes forward by one unit and aside by a `spread` for its column and another one for its
row. Pixels on opposite sides of the middle have opposite spreads, so that their rays are
mirror images of each other in the forward axis. Rays through different pixels have different
directions, because what goes forward tells how long a direction was before it was
normalised, and what goes aside then tells the spreads.
-/

set_option autoImplicit false

namespace RayTracer

open Exact

/-- The mirror image of a vector in an axis of length one. What goes along the axis stays,
what goes across it is turned round. -/
def Vec3.turned {S : Type} [Scalar S] (vector axis : Vec3 S) : Vec3 S :=
  (2 * vector.dot axis) • axis - vector

namespace View

section Directions

variable {S : Type} [Scalar S] (view : View S)

/-- The direction to the middle of the picture. -/
def forward : Vec3 S := (view.lookTo - view.lookFrom).unit

/-- The direction to the right of the picture. -/
def rightward : Vec3 S := (view.forward.cross view.lookUp).unit

/-- The direction to the top of the picture. -/
def upward : Vec3 S := (view.rightward.cross view.forward).unit

end Directions

/-- A view with a finite place and finite directions. -/
structure IsFinite (view : View Exact) : Prop where
  lookFrom : view.lookFrom.IsFinite
  lookTo : view.lookTo.IsFinite
  lookUp : view.lookUp.IsFinite

end View

/-! ## Axes -/

/-- Three real vectors that are perpendicular to each other. The first has length one. -/
structure Axes where
  /-- The axis through the middle of the picture. -/
  forward : Vec3 ℝ
  /-- The axis to the right. -/
  rightward : Vec3 ℝ
  /-- The axis upwards. -/
  upward : Vec3 ℝ
  inner_forward : Vec3.inner forward forward = 1
  inner_rightward : Vec3.inner forward rightward = 0
  inner_upward : Vec3.inner forward upward = 0
  inner_across : Vec3.inner rightward upward = 0

namespace Axes

variable (axes : Axes)

/-- All three axes have length one. -/
structure Wide : Prop where
  rightward : Vec3.inner axes.rightward axes.rightward = 1
  upward : Vec3.inner axes.upward axes.upward = 1

/-- One unit forward and some way to the right and upwards. -/
noncomputable def heading (right up : ℝ) : Vec3 ℝ :=
  Vec3.plus (Vec3.plus axes.forward (Vec3.times right axes.rightward)) (Vec3.times up axes.upward)

variable (right up : ℝ)

theorem inner_forward_heading : Vec3.inner axes.forward (axes.heading right up) = 1 := by
  rw [heading, Vec3.inner_plus, Vec3.inner_plus, Vec3.inner_times, Vec3.inner_times,
    axes.inner_forward, axes.inner_rightward, axes.inner_upward]
  ring

theorem inner_rightward_heading :
    Vec3.inner axes.rightward (axes.heading right up) =
      right * Vec3.inner axes.rightward axes.rightward := by
  rw [heading, Vec3.inner_plus, Vec3.inner_plus, Vec3.inner_times, Vec3.inner_times,
    Vec3.inner_comm, axes.inner_rightward, axes.inner_across]
  ring

theorem inner_upward_heading :
    Vec3.inner axes.upward (axes.heading right up) =
      up * Vec3.inner axes.upward axes.upward := by
  rw [heading, Vec3.inner_plus, Vec3.inner_plus, Vec3.inner_times, Vec3.inner_times,
    Vec3.inner_comm, axes.inner_upward, Vec3.inner_comm _ axes.rightward, axes.inner_across]
  ring

/-- The length of a heading does not depend on the sides that it goes to. -/
theorem inner_heading_heading :
    Vec3.inner (axes.heading right up) (axes.heading right up) =
      1 + right ^ 2 * Vec3.inner axes.rightward axes.rightward +
        up ^ 2 * Vec3.inner axes.upward axes.upward := by
  have parts (vector : Vec3 ℝ) : Vec3.inner vector (axes.heading right up) =
      Vec3.inner vector axes.forward + right * Vec3.inner vector axes.rightward +
        up * Vec3.inner vector axes.upward := by
    rw [heading, Vec3.inner_plus, Vec3.inner_plus, Vec3.inner_times, Vec3.inner_times]
  rw [parts, Vec3.inner_comm _ axes.forward, Vec3.inner_comm _ axes.rightward,
    Vec3.inner_comm _ axes.upward, inner_forward_heading, inner_rightward_heading,
    inner_upward_heading]
  ring

theorem one_le_length_heading : 1 ≤ (axes.heading right up).length := by
  rw [Vec3.length, Real.one_le_sqrt, inner_heading_heading]
  have aside := mul_nonneg (sq_nonneg right) (Vec3.inner_self_nonneg axes.rightward)
  have above := mul_nonneg (sq_nonneg up) (Vec3.inner_self_nonneg axes.upward)
  linarith

/-- A heading is long enough to have a direction. -/
theorem lt_length_heading : 1e-9 < (axes.heading right up).length := by
  have small : (1e-9 : ℝ) < 1 := by norm_num
  exact small.trans_le (axes.one_le_length_heading right up)

theorem direction_heading :
    (axes.heading right up).direction =
      Vec3.times (axes.heading right up).length⁻¹ (axes.heading right up) := by
  rw [Vec3.direction, Vec3.stretch, if_pos (axes.lt_length_heading right up)]

/-- What a direction has to go forward is the inverse of the length of its heading. -/
theorem inner_direction_forward :
    Vec3.inner (axes.heading right up).direction axes.forward =
      (axes.heading right up).length⁻¹ := by
  rw [direction_heading, Vec3.times_inner, Vec3.inner_comm, inner_forward_heading, mul_one]

/-- **Headings to opposite sides have directions that are mirror images of each other.** -/
theorem direction_heading_neg :
    (axes.heading (-right) (-up)).direction =
      Vec3.minus (Vec3.times (2 * Vec3.inner (axes.heading right up).direction axes.forward)
        axes.forward) (axes.heading right up).direction := by
  have sameLength : (axes.heading (-right) (-up)).length = (axes.heading right up).length := by
    rw [Vec3.length, Vec3.length, inner_heading_heading, inner_heading_heading, neg_sq, neg_sq]
  rw [inner_direction_forward, direction_heading, direction_heading, sameLength]
  refine Vec3.ext ?_ ?_ ?_
  all_goals
    simp only [heading, Vec3.plus, Vec3.minus, Vec3.times, Vec3.zipWith, Vec3.map]
    ring

/-- **Different headings along axes of length one have different directions.** -/
theorem eq_of_direction_heading {axes : Axes} (wide : axes.Wide) {right up otherRight otherUp : ℝ}
    (same : (axes.heading right up).direction = (axes.heading otherRight otherUp).direction) :
    right = otherRight ∧ up = otherUp := by
  have sameLength : (axes.heading right up).length⁻¹ =
      (axes.heading otherRight otherUp).length⁻¹ := by
    rw [← inner_direction_forward, ← inner_direction_forward, same]
  have nonzero : (axes.heading otherRight otherUp).length⁻¹ ≠ 0 :=
    inv_ne_zero (Vec3.length_ne_zero (axes.lt_length_heading otherRight otherUp))
  rw [direction_heading, direction_heading, sameLength] at same
  constructor
  · have aside := congrArg (Vec3.inner axes.rightward) same
    rw [Vec3.inner_times, Vec3.inner_times, inner_rightward_heading, inner_rightward_heading,
      wide.rightward, mul_one, mul_one] at aside
    exact mul_left_cancel₀ nonzero aside
  · have above := congrArg (Vec3.inner axes.upward) same
    rw [Vec3.inner_times, Vec3.inner_times, inner_upward_heading, inner_upward_heading,
      wide.upward, mul_one, mul_one] at above
    exact mul_left_cancel₀ nonzero above

/-- The direction of a vector that is across another one is across it as well. -/
theorem inner_direction_eq_zero {first second : Vec3 ℝ} (across : Vec3.inner first second = 0) :
    Vec3.inner first second.direction = 0 := by
  rw [Vec3.direction, Vec3.inner_times, across, mul_zero]

/-- The axes of a real direction of length one and a direction upwards. -/
noncomputable def ofForward (forward lookUp : Vec3 ℝ) (isUnit : Vec3.inner forward forward = 1) :
    Axes where
  forward := forward
  rightward := (Vec3.outer forward lookUp).direction
  upward := (Vec3.outer (Vec3.outer forward lookUp).direction forward).direction
  inner_forward := isUnit
  inner_rightward := inner_direction_eq_zero (Vec3.inner_outer_left _ _)
  inner_upward := inner_direction_eq_zero (Vec3.inner_outer_right _ _)
  inner_across := inner_direction_eq_zero (Vec3.inner_outer_left _ _)

/-- The axes have length one when the direction upwards is not the one forward. -/
theorem wide_ofForward {forward lookUp : Vec3 ℝ} (isUnit : Vec3.inner forward forward = 1)
    (apart : 1e-9 < (Vec3.outer forward lookUp).length) :
    (ofForward forward lookUp isUnit).Wide where
  rightward := Vec3.inner_direction_direction apart
  upward := by
    let axes := ofForward forward lookUp isUnit
    have rightward : Vec3.inner axes.rightward axes.rightward = 1 :=
      Vec3.inner_direction_direction apart
    -- The cross product of two perpendicular vectors of length one has length one.
    have crossed : Vec3.inner (Vec3.outer axes.rightward forward)
        (Vec3.outer axes.rightward forward) = 1 := by
      have across : Vec3.inner axes.rightward forward = 0 :=
        (Vec3.inner_comm _ _).trans axes.inner_rightward
      rw [Vec3.inner_outer_outer, rightward, isUnit, across]
      norm_num
    change Vec3.inner (Vec3.outer axes.rightward forward).direction
      (Vec3.outer axes.rightward forward).direction = 1
    rw [Vec3.direction_of_isUnit crossed, crossed]

end Axes

/-- **The directions of a finite view are axes.** -/
theorem View.IsFinite.exists_axes {view : View Exact} (finite : view.IsFinite)
    (apart : epsilon < (view.lookTo - view.lookFrom).norm) :
    ∃ axes : Axes, view.forward = .ofReal axes.forward ∧
      view.rightward = .ofReal axes.rightward ∧ view.upward = .ofReal axes.upward ∧
      (epsilon < (view.forward.cross view.lookUp).norm → axes.Wide) := by
  obtain ⟨⟨lookFrom, isFrom⟩, ⟨lookTo, isTo⟩, ⟨lookUp, isUp⟩⟩ := finite
  rw [isFrom, isTo, Vec3.ofReal_sub_ofReal, Vec3.norm_ofReal, epsilon_eq_real,
    real_lt_real] at apart
  let axes := Axes.ofForward (Vec3.minus lookTo lookFrom).direction lookUp
    (Vec3.inner_direction_direction apart)
  have isForward : view.forward = .ofReal axes.forward := by
    rw [View.forward, isFrom, isTo, Vec3.ofReal_sub_ofReal, Vec3.unit_ofReal_eq_direction]
    rfl
  have isCross : view.forward.cross view.lookUp =
      .ofReal (Vec3.outer axes.forward lookUp) := by rw [isForward, isUp, Vec3.cross_ofReal]
  have isRightward : view.rightward = .ofReal axes.rightward := by
    rw [View.rightward, isCross, Vec3.unit_ofReal_eq_direction]
    rfl
  refine ⟨axes, isForward, isRightward, ?_, ?_⟩
  · rw [View.upward, isRightward, isForward, Vec3.cross_ofReal, Vec3.unit_ofReal_eq_direction]
    rfl
  · rw [isCross, Vec3.norm_ofReal, epsilon_eq_real, real_lt_real]
    exact Axes.wide_ofForward _

/-! ## Pixels -/

namespace Camera

/-- How far aside the middle of a column or row is, of a number of them that reach equally
far to both sides. -/
noncomputable def spread (halfExtent : ℝ) (index count : ℕ) : ℝ :=
  halfExtent * (((2 * index + 1 : ℕ) : ℝ) / count - 1)

theorem spread_eq (halfExtent : ℝ) (index count : ℕ) :
    spread halfExtent index count = halfExtent * ((2 * index + 1) / count - 1) := by
  rw [spread]
  push_cast
  rfl

/-- Columns and rows at the same distance from both ends are equally far aside. -/
theorem spread_opposite (halfExtent : ℝ) {index count : ℕ} (inside : index < count) :
    spread halfExtent (count - 1 - index) count = -spread halfExtent index count := by
  have nonzero : (count : ℝ) ≠ 0 := Nat.cast_ne_zero.mpr (Nat.ne_zero_of_lt inside)
  have opposite : ((count - 1 - index : ℕ) : ℝ) = count - 1 - index := by
    rw [Nat.cast_sub (by omega), Nat.cast_sub (by omega), Nat.cast_one]
  rw [spread_eq, spread_eq, opposite]
  field_simp
  ring

theorem spread_injective {halfExtent : ℝ} (extended : halfExtent ≠ 0) {first second count : ℕ}
    (inside : first < count)
    (same : spread halfExtent first count = spread halfExtent second count) : first = second := by
  have nonzero : (count : ℝ) ≠ 0 := Nat.cast_ne_zero.mpr (Nat.ne_zero_of_lt inside)
  rw [spread_eq, spread_eq] at same
  have fractions := mul_left_cancel₀ extended same
  field_simp at fractions
  have equal : (first : ℝ) = second := by linarith
  exact_mod_cast equal

theorem pixelStep_eq_real {count : ℕ} (positive : 0 < count) :
    (pixelStep count : Exact) = real (2 / count) := by
  have nonzero : (count : ℝ) ≠ 0 := Nat.cast_ne_zero.mpr positive.ne'
  rw [pixelStep, max_eq_left (Nat.one_le_iff_ne_zero.mpr positive.ne'), two_eq_real,
    ofNat_eq_real, real_div_real nonzero]

/-- **The ray through a pixel goes forward by one unit and aside by the spreads of its column
and row.** -/
theorem rayThrough_expose {view : View Exact} {axes : Axes} {lookFrom : Vec3 ℝ}
    (isFrom : view.lookFrom = .ofReal lookFrom) (isForward : view.forward = .ofReal axes.forward)
    (isRightward : view.rightward = .ofReal axes.rightward)
    (isUpward : view.upward = .ofReal axes.upward) (halfExtent : ℝ) {width height : ℕ}
    (wide : 0 < width) (high : 0 < height) (column row : ℕ) :
    (expose view (real halfExtent) width height).rayThrough column row =
      .ofReal ⟨lookFrom, Vec3.direction
        (axes.heading (spread halfExtent column width) (spread halfExtent row height))⟩ := by
  have widthNonzero : (width : ℝ) ≠ 0 := Nat.cast_ne_zero.mpr wide.ne'
  have heightNonzero : (height : ℝ) ≠ 0 := Nat.cast_ne_zero.mpr high.ne'
  have half : (0.5 : Exact) = real (1 / 2) := by
    change real _ = _
    norm_num
  let right : Vec3 Exact := (pixelStep width : Exact) • real halfExtent • view.rightward
  let up : Vec3 Exact := (pixelStep height : Exact) • real halfExtent • view.upward
  let corner : Vec3 Exact := view.lookFrom + view.forward - real halfExtent • view.rightward -
    real halfExtent • view.upward
  have isTarget : corner + (0.5 : Exact) • (right + up) + (Scalar.ofNat column : Exact) • right +
        (Scalar.ofNat row : Exact) • up - view.lookFrom =
      .ofReal (axes.heading (spread halfExtent column width) (spread halfExtent row height)) := by
    simp only [corner, right, up, isFrom, isForward, isRightward, isUpward, half, ofNat_eq_real,
      pixelStep_eq_real wide, pixelStep_eq_real high, Vec3.real_smul_ofReal,
      Vec3.ofReal_add_ofReal, Vec3.ofReal_sub_ofReal]
    refine congrArg Vec3.ofReal (Vec3.ext ?_ ?_ ?_)
    all_goals
      simp only [Axes.heading, spread_eq, Vec3.plus, Vec3.minus, Vec3.times, Vec3.zipWith, Vec3.map]
      field_simp
      ring
  change Ray.along view.lookFrom _ = _
  rw [← Ray.along_ofReal, ← isTarget, ← isFrom]
  rfl

/-- **The rays through the pixels of a picture form an even grid around its middle.** The view
is finite, and its two places are apart. The half extent is any number, as the tangent of half
an angle may be. Every ray starts at the place of the camera and points, with length one,
forward by one unit and aside by the spreads of its column and row. The pixel on the opposite
side of the middle has the mirror image of its direction in the forward axis. When the
direction upwards is not the one forward and the picture is extended at all, different pixels
have different directions. -/
theorem rayThrough_grid {view : View Exact} (finite : view.IsFinite)
    (apart : epsilon < (view.lookTo - view.lookFrom).norm) (halfExtent : ℝ) (width height : ℕ) :
    let camera := expose view (real halfExtent) width height
    (∀ column row, column < width → row < height →
      let ray := camera.rayThrough column row
      ray.origin = view.lookFrom ∧
      (∃ factor : ℝ, 0 < factor ∧ ray.direction = real factor • (view.forward +
        real (spread halfExtent column width) • view.rightward +
        real (spread halfExtent row height) • view.upward)) ∧
      ray.direction.norm = 1 ∧
      (camera.rayThrough (width - 1 - column) (height - 1 - row)).direction =
        ray.direction.turned view.forward) ∧
    (epsilon < (view.forward.cross view.lookUp).norm → halfExtent ≠ 0 →
      ∀ column row otherColumn otherRow, column < width → row < height → otherColumn < width →
        otherRow < height → (camera.rayThrough column row).direction =
          (camera.rayThrough otherColumn otherRow).direction →
        column = otherColumn ∧ row = otherRow) := by
  intro camera
  obtain ⟨axes, isForward, isRightward, isUpward, wide⟩ := finite.exists_axes apart
  obtain ⟨lookFrom, isFrom⟩ := finite.lookFrom
  have through {column row : ℕ} (inRow : column < width) (inColumn : row < height) (i j : ℕ) :
      camera.rayThrough i j = .ofReal ⟨lookFrom,
        (axes.heading (spread halfExtent i width) (spread halfExtent j height)).direction⟩ :=
    rayThrough_expose isFrom isForward isRightward isUpward halfExtent (Nat.zero_lt_of_lt inRow)
      (Nat.zero_lt_of_lt inColumn) i j
  constructor
  · intro column row inRow inColumn ray
    let heading := axes.heading (spread halfExtent column width) (spread halfExtent row height)
    have isRay : ray = .ofReal ⟨lookFrom, heading.direction⟩ := through inRow inColumn column row
    have longEnough := axes.lt_length_heading (spread halfExtent column width)
      (spread halfExtent row height)
    refine ⟨?_, ⟨heading.length⁻¹, ?_, ?_⟩, ?_, ?_⟩
    · rw [isRay, isFrom]
      rfl
    · have positive := axes.one_le_length_heading (spread halfExtent column width)
        (spread halfExtent row height)
      exact inv_pos.mpr (one_pos.trans_le positive)
    · rw [isRay, isForward, isRightward, isUpward]
      exact congrArg Vec3.ofReal (axes.direction_heading _ _)
    · rw [isRay]
      exact Vec3.norm_eq_one_iff.mpr (Vec3.inner_direction_direction longEnough)
    · rw [through inRow inColumn, isRay, isForward, spread_opposite halfExtent inRow,
        spread_opposite halfExtent inColumn]
      change Vec3.ofReal _ = _
      rw [axes.direction_heading_neg, Vec3.turned, two_eq_real]
      exact (Vec3.ofReal_sub_ofReal _ _).symm
  · intro notAbove extended column row otherColumn otherRow inRow inColumn otherInRow otherInColumn
      same
    rw [through inRow inColumn, through inRow inColumn] at same
    have sameSpreads := Axes.eq_of_direction_heading (wide notAbove) (Vec3.ofReal_injective same)
    exact ⟨spread_injective extended inRow sameSpreads.1,
      spread_injective extended inColumn sameSpreads.2⟩

/-- The view from the origin along the third axis, downwards, in a picture of four pixels that
spans a right angle. -/
theorem rayThrough_grid_corners :
    let view : View Exact :=
      ⟨.ofReal ⟨0, 0, 0⟩, .ofReal ⟨0, 0, -1⟩, .ofReal ⟨0, 1, 0⟩, real 90⟩
    let camera := expose view (real 1) 2 2
    view.IsFinite ∧ epsilon < (view.lookTo - view.lookFrom).norm ∧
      epsilon < (view.forward.cross view.lookUp).norm ∧
      (camera.rayThrough 0 0).direction.norm = 1 ∧
      (camera.rayThrough 1 1).direction = (camera.rayThrough 0 0).direction.turned view.forward ∧
      (camera.rayThrough 0 0).direction ≠ (camera.rayThrough 1 0).direction := by
  intro view camera
  have finite : view.IsFinite :=
    ⟨Vec3.isFinite_ofReal _, Vec3.isFinite_ofReal _, Vec3.isFinite_ofReal _⟩
  have small : epsilon < (1 : Exact) := by
    rw [epsilon_eq_real, one_eq_real, real_lt_real]
    norm_num
  have difference : view.lookTo - view.lookFrom = .ofReal ⟨0, 0, -1⟩ := by
    rw [Vec3.ofReal_sub_ofReal]
    refine congrArg Vec3.ofReal (Vec3.ext ?_ ?_ ?_) <;> norm_num [Vec3.minus, Vec3.zipWith]
  have isUnit : Vec3.inner ⟨0, 0, -1⟩ ⟨0, 0, -1⟩ = 1 := by norm_num [Vec3.inner]
  have apart : epsilon < (view.lookTo - view.lookFrom).norm := by
    rw [difference, Vec3.norm_eq_one_iff.mpr isUnit]
    exact small
  have isForward : view.forward = .ofReal ⟨0, 0, -1⟩ := by
    rw [View.forward, difference, Vec3.unit_ofReal isUnit]
  have notAbove : epsilon < (view.forward.cross view.lookUp).norm := by
    have crossed : Vec3.inner (Vec3.outer ⟨0, 0, -1⟩ ⟨0, 1, 0⟩)
        (Vec3.outer ⟨0, 0, -1⟩ ⟨0, 1, 0⟩) = 1 := by norm_num [Vec3.inner, Vec3.outer]
    rw [isForward, Vec3.cross_ofReal, Vec3.norm_eq_one_iff.mpr crossed]
    exact small
  obtain ⟨grid, different⟩ := rayThrough_grid finite apart 1 2 2
  obtain ⟨-, -, isDirection, mirrored⟩ := grid 0 0 two_pos two_pos
  refine ⟨finite, apart, notAbove, isDirection, mirrored, fun same => ?_⟩
  have sameColumn := (different notAbove one_ne_zero 0 0 1 0 two_pos two_pos one_lt_two two_pos
    same).1
  exact zero_ne_one sameColumn

end Camera

end RayTracer
