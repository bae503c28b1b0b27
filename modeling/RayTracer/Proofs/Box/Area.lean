import RayTracer.Proofs.Box.Containment

/-!
# The surface area of a box

In exact arithmetic the surface area of a box with finite corners is a number that is not
negative (`Box.IsFinite.exists_area`), also when the corners are the wrong way round, and
a box has no more of it than a box around it (`Box.area_le_of_within`). A union of boxes
with finite corners is such a box around them. No box at all has a negative number for its
surface area (`Box.area_nonneg`). The empty box has none, so that among sound boxes the area
grows with the box from the empty one on (`Box.Sound.area_le_of_within`).
-/

set_option autoImplicit false

namespace RayTracer

open Exact

namespace Box

/-! ## Boxes with finite corners -/

/-- The corners of a box are finite, in order or not. -/
def IsFinite (box : Box Exact) : Prop :=
  ∃ lower upper : Vec3 ℝ, box = ⟨.ofReal lower, .ofReal upper⟩

theorem IsFinite.defined {box : Box Exact} (finite : box.IsFinite) : box.Defined := by
  obtain ⟨lower, upper, rfl⟩ := finite
  intro axis
  rw [Vec3.get_ofReal, Vec3.get_ofReal]
  exact ⟨defined_real _, defined_real _⟩

/-- A box with finite corners lies within its union with another one. -/
theorem IsFinite.union {first second : Box Exact} (firstFinite : first.IsFinite)
    (secondFinite : second.IsFinite) :
    (first.union second).IsFinite ∧ first.Within (first.union second) := by
  obtain ⟨firstLower, firstUpper, rfl⟩ := firstFinite
  obtain ⟨secondLower, secondUpper, rfl⟩ := secondFinite
  rw [union_finite, within_finite_iff]
  refine ⟨⟨_, _, rfl⟩, fun axis => ?_⟩
  cases axis <;> exact ⟨min_le_left _ _, le_max_left _ _⟩

theorem IsFinite.foldl_union {boxes : List (Box Exact)} {start : Box Exact}
    (startFinite : start.IsFinite) (finite : ∀ box ∈ boxes, box.IsFinite) :
    (boxes.foldl Box.union start).IsFinite ∧ start.Within (boxes.foldl Box.union start) := by
  induction boxes generalizing start with
  | nil =>
    obtain ⟨lower, upper, rfl⟩ := startFinite
    exact ⟨⟨lower, upper, rfl⟩, within_finite_iff.mpr fun axis => ⟨le_rfl, le_rfl⟩⟩
  | cons box rest ih =>
    obtain ⟨unionFinite, within⟩ := startFinite.union (finite box List.mem_cons_self)
    obtain ⟨wholeFinite, withinWhole⟩ :=
      ih unionFinite fun other member => finite other (List.mem_cons_of_mem _ member)
    exact ⟨wholeFinite, within.trans withinWhole⟩

/-- The union of some boxes with finite corners has finite corners. -/
theorem finite_unionAll {boxes : List (Box Exact)} (nonempty : boxes ≠ [])
    (finite : ∀ box ∈ boxes, box.IsFinite) : (unionAll boxes).IsFinite := by
  cases boxes with
  | nil => exact absurd rfl nonempty
  | cons box rest =>
    have boxFinite := finite box List.mem_cons_self
    rw [unionAll, List.foldl_cons, boxFinite.defined.empty_union]
    exact (boxFinite.foldl_union fun other member =>
      finite other (List.mem_cons_of_mem _ member)).1

/-- The union of some of the first boxes lies within the union of all. -/
theorem unionAll_within_append {first second : List (Box Exact)} (nonempty : first ≠ [])
    (finite : ∀ box ∈ first ++ second, box.IsFinite) :
    (unionAll first).Within (unionAll (first ++ second)) := by
  rw [List.forall_mem_append] at finite
  rw [unionAll, unionAll, List.foldl_append]
  exact ((finite_unionAll nonempty finite.1).foldl_union finite.2).2

/-! ## Areas -/

/-- The area of three sides of a box that meet in a corner, given by two real corners of the
box, and zero when these are the wrong way round. -/
noncomputable def threeSides (lower upper : Vec3 ℝ) : ℝ :=
  if upper.x < lower.x ∨ upper.y < lower.y ∨ upper.z < lower.z then 0
  else
    (upper.x - lower.x) * (upper.y - lower.y) + (upper.y - lower.y) * (upper.z - lower.z) +
      (upper.z - lower.z) * (upper.x - lower.x)

theorem area_finite (lower upper : Vec3 ℝ) :
    area ⟨.ofReal lower, .ofReal upper⟩ = real (2 * threeSides lower upper) := by
  by_cases crossed : upper.x < lower.x ∨ upper.y < lower.y ∨ upper.z < lower.z
  · have isEmpty : Box.isEmpty (⟨.ofReal lower, .ofReal upper⟩ : Box Exact) = true :=
      decide_eq_true crossed
    rw [area, isEmpty, if_pos rfl, threeSides, if_pos crossed, mul_zero, zero_eq_real]
  · have nonempty : Box.isEmpty (⟨.ofReal lower, .ofReal upper⟩ : Box Exact) = false :=
      decide_eq_false crossed
    rw [area, nonempty, if_neg Bool.false_ne_true, threeSides, if_neg crossed, two_eq_real,
      Vec3.ofReal_sub_ofReal]
    rfl

theorem threeSides_nonneg (lower upper : Vec3 ℝ) : 0 ≤ threeSides lower upper := by
  rw [threeSides]
  split
  · exact le_rfl
  · rename_i ordered
    simp only [not_or, not_lt] at ordered
    obtain ⟨x, y, z⟩ := ordered
    have width := sub_nonneg.mpr x
    have height := sub_nonneg.mpr y
    have depth := sub_nonneg.mpr z
    positivity

/-- Corners that are farther apart have larger sides between them. -/
theorem threeSides_le_threeSides {lower upper outerLower outerUpper : Vec3 ℝ}
    (wider : ∀ axis : Axis, outerLower.get axis ≤ lower.get axis ∧
      upper.get axis ≤ outerUpper.get axis) :
    threeSides lower upper ≤ threeSides outerLower outerUpper := by
  rw [threeSides]
  split
  · exact threeSides_nonneg _ _
  · rename_i ordered
    simp only [not_or, not_lt] at ordered
    obtain ⟨x, y, z⟩ := ordered
    obtain ⟨lowerX, upperX⟩ : outerLower.x ≤ lower.x ∧ upper.x ≤ outerUpper.x := wider .x
    obtain ⟨lowerY, upperY⟩ : outerLower.y ≤ lower.y ∧ upper.y ≤ outerUpper.y := wider .y
    obtain ⟨lowerZ, upperZ⟩ : outerLower.z ≤ lower.z ∧ upper.z ≤ outerUpper.z := wider .z
    have outerX := lowerX.trans (x.trans upperX)
    have outerY := lowerY.trans (y.trans upperY)
    have outerZ := lowerZ.trans (z.trans upperZ)
    have outerOrdered : ¬(outerUpper.x < outerLower.x ∨ outerUpper.y < outerLower.y ∨
        outerUpper.z < outerLower.z) := by
      simp only [not_or, not_lt]
      exact ⟨outerX, outerY, outerZ⟩
    rw [threeSides, if_neg outerOrdered]
    gcongr

theorem IsFinite.exists_area {box : Box Exact} (finite : box.IsFinite) :
    ∃ value, 0 ≤ value ∧ box.area = real value := by
  obtain ⟨lower, upper, rfl⟩ := finite
  exact ⟨_, mul_nonneg zero_le_two (threeSides_nonneg lower upper), area_finite lower upper⟩

/-- Whatever the corners of a box are, a number that is its surface area is not negative. -/
theorem area_nonneg {box : Box Exact} {value : ℝ} (isArea : box.area = real value) :
    0 ≤ value := by
  by_cases isEmpty : box.isEmpty = true
  · rw [area, if_pos isEmpty, zero_eq_real] at isArea
    exact (real.inj isArea).le
  -- The corners are finite, since otherwise the area is not a number.
  · have isTwice := isArea
    rw [area, if_neg isEmpty] at isTwice
    obtain ⟨-, _, -, isSum⟩ := exists_of_mul_eq_real isTwice
    obtain ⟨_, _, isSides, isBack⟩ := exists_of_add_eq_real isSum
    obtain ⟨_, _, isFront, -⟩ := exists_of_add_eq_real isSides
    obtain ⟨_, _, isWidth, isHeight⟩ := exists_of_mul_eq_real isFront
    obtain ⟨_, _, isDepth, -⟩ := exists_of_mul_eq_real isBack
    obtain ⟨upperX, lowerX, isUpperX, isLowerX⟩ := exists_of_sub_eq_real isWidth
    obtain ⟨upperY, lowerY, isUpperY, isLowerY⟩ := exists_of_sub_eq_real isHeight
    obtain ⟨upperZ, lowerZ, isUpperZ, isLowerZ⟩ := exists_of_sub_eq_real isDepth
    have finite : box.IsFinite := ⟨⟨lowerX, lowerY, lowerZ⟩, ⟨upperX, upperY, upperZ⟩,
      Box.ext (Vec3.ext isLowerX isLowerY isLowerZ) (Vec3.ext isUpperX isUpperY isUpperZ)⟩
    obtain ⟨surface, nonneg, isSurface⟩ := finite.exists_area
    exact real.inj (isArea.symm.trans isSurface) ▸ nonneg

/-- **A box has no more surface area than a box around it.** -/
theorem area_le_of_within {inner outer : Box Exact} (finite : inner.IsFinite)
    (outerFinite : outer.IsFinite) (within : inner.Within outer) : inner.area ≤ outer.area := by
  obtain ⟨lower, upper, rfl⟩ := finite
  obtain ⟨outerLower, outerUpper, rfl⟩ := outerFinite
  have sides := threeSides_le_threeSides (within_finite_iff.mp within)
  rw [area_finite, area_finite, real_le_real]
  linarith

/-! ## Sound boxes -/

theorem area_empty : (empty : Box Exact).area = real 0 :=
  (if_pos isEmpty_empty).trans zero_eq_real

theorem Sound.exists_area {box : Box Exact} (sound : box.Sound) :
    ∃ value, 0 ≤ value ∧ box.area = real value := by
  cases sound with
  | empty => exact ⟨0, le_rfl, area_empty⟩
  | finite _ => exact IsFinite.exists_area ⟨_, _, rfl⟩

/-- A sound box, the empty one included, has no more surface area than a sound box around it. -/
theorem Sound.area_le_of_within {inner outer : Box Exact} (sound : inner.Sound)
    (outerSound : outer.Sound) (within : inner.Within outer) : inner.area ≤ outer.area := by
  cases sound with
  | empty =>
    obtain ⟨value, nonneg, isArea⟩ := outerSound.exists_area
    rw [area_empty, isArea, real_le_real]
    exact nonneg
  | finite _ =>
    obtain ⟨corners, -, rfl⟩ := outerSound.finite_of_within within
    exact Box.area_le_of_within ⟨_, _, rfl⟩ ⟨_, _, rfl⟩ within

end Box

end RayTracer
