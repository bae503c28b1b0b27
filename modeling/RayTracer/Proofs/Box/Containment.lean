import RayTracer.Proofs.Box.Slab

/-!
# Containment of boxes

One box lies within another when it reaches no further on any side. The boxes
that the ray tracer makes are sound: they are the empty box, or their corners
are finite and in order. Unions and padding keep boxes sound, and the union of
a list of sound boxes is the least sound box around them
(`Box.within_unionAll_iff`). The box of a point makes the smallest box around a
list of points a union as well.

A ray that meets a sound box meets every sound box around it
(`Box.meets_of_within`): the slab test never misses a box because of a larger
one.
-/

set_option autoImplicit false

namespace RayTracer

open Exact

namespace Box

section Scalars

variable {S : Type} [Scalar S]

theorem get_lower_union (first second : Box S) (axis : Axis) :
    (first.union second).lower.get axis =
      Scalar.minNum (first.lower.get axis) (second.lower.get axis) := by
  cases axis <;> rfl

theorem get_upper_union (first second : Box S) (axis : Axis) :
    (first.union second).upper.get axis =
      Scalar.maxNum (first.upper.get axis) (second.upper.get axis) := by
  cases axis <;> rfl

/-- The smallest box around a list of boxes. -/
def unionAll (boxes : List (Box S)) : Box S := boxes.foldl union empty

/-- The box of a single point. -/
def ofPoint (point : Vec3 S) : Box S := ⟨point, point⟩

/-- The smallest box around points is the union of their boxes. -/
theorem ofPoints_eq_unionAll (points : List (Vec3 S)) :
    ofPoints points = unionAll (points.map ofPoint) := by
  rw [unionAll, List.foldl_map]
  rfl

end Scalars

/-- One box reaches no further than another on any side. -/
def Within (inner outer : Box Exact) : Prop :=
  ∀ axis : Axis, outer.lower.get axis ≤ inner.lower.get axis ∧
    inner.upper.get axis ≤ outer.upper.get axis

/-- A point is in a box, on its surface included. -/
def Around (box : Box Exact) (point : Vec3 ℝ) : Prop := (ofPoint (.ofReal point)).Within box

/-- A finite point is in a box when the box is around it. -/
theorem contains_iff_around {box : Box Exact} {point : Vec3 ℝ} :
    box.contains (.ofReal point) = true ↔ box.Around point :=
  contains_iff_get

/-- The empty box, or a box whose corners are finite and in order. -/
inductive Sound : Box Exact → Prop where
  | empty : Sound empty
  | finite {lower upper : Vec3 ℝ} (ordered : ∀ axis : Axis, lower.get axis ≤ upper.get axis) :
      Sound ⟨.ofReal lower, .ofReal upper⟩

theorem get_lower_empty (axis : Axis) : (empty : Box Exact).lower.get axis = infinity := by
  cases axis <;> rfl

theorem get_upper_empty (axis : Axis) : (empty : Box Exact).upper.get axis = negInfinity := by
  cases axis <;> rfl

theorem Sound.defined_lower {box : Box Exact} (sound : box.Sound) (axis : Axis) :
    (box.lower.get axis).Defined := by
  cases sound with
  | empty => exact get_lower_empty axis ▸ defined_infinity
  | finite _ => exact Vec3.get_ofReal _ axis ▸ defined_real _

theorem Sound.defined_upper {box : Box Exact} (sound : box.Sound) (axis : Axis) :
    (box.upper.get axis).Defined := by
  cases sound with
  | empty => exact get_upper_empty axis ▸ defined_negInfinity
  | finite _ => exact Vec3.get_ofReal _ axis ▸ defined_real _

/-- No component of the corners of a box is the result of an invalid operation. -/
def Defined (box : Box Exact) : Prop :=
  ∀ axis : Axis, (box.lower.get axis).Defined ∧ (box.upper.get axis).Defined

theorem Sound.defined {box : Box Exact} (sound : box.Sound) : box.Defined :=
  fun axis => ⟨sound.defined_lower axis, sound.defined_upper axis⟩

theorem sound_ofPoint (point : Vec3 ℝ) : (ofPoint (.ofReal point)).Sound :=
  .finite fun axis => le_refl (point.get axis)

/-! ## The order of boxes -/

theorem Sound.within_refl {box : Box Exact} (sound : box.Sound) : box.Within box :=
  fun axis => ⟨Exact.le_refl (sound.defined_lower axis), Exact.le_refl (sound.defined_upper axis)⟩

theorem Within.trans {first second third : Box Exact} (earlier : first.Within second)
    (later : second.Within third) : first.Within third :=
  fun axis => ⟨Exact.le_trans (later axis).1 (earlier axis).1,
    Exact.le_trans (earlier axis).2 (later axis).2⟩

/-- Boxes that lie within each other are the same. -/
theorem Within.antisymm {first second : Box Exact} (within : first.Within second)
    (around : second.Within first) : first = second :=
  Box.ext (Vec3.ext_get fun axis => Exact.le_antisymm (around axis).1 (within axis).1)
    (Vec3.ext_get fun axis => Exact.le_antisymm (within axis).2 (around axis).2)

/-- The empty box lies within every sound box. -/
theorem Sound.empty_within {box : Box Exact} (sound : box.Sound) :
    (Box.empty : Box Exact).Within box := by
  intro axis
  rw [get_lower_empty, get_upper_empty]
  refine ⟨le_iff.mpr ⟨sound.defined_lower axis, defined_infinity, ?_⟩,
    le_iff.mpr ⟨defined_negInfinity, sound.defined_upper axis, ?_⟩⟩
  · exact le_top
  · exact bot_le

theorem within_finite_iff {lower upper outerLower outerUpper : Vec3 ℝ} :
    (⟨.ofReal lower, .ofReal upper⟩ : Box Exact).Within ⟨.ofReal outerLower, .ofReal outerUpper⟩ ↔
      ∀ axis : Axis, outerLower.get axis ≤ lower.get axis ∧
        upper.get axis ≤ outerUpper.get axis := by
  simp only [Within, Vec3.get_ofReal, real_le_real]

theorem around_finite_iff {lower upper point : Vec3 ℝ} :
    (⟨.ofReal lower, .ofReal upper⟩ : Box Exact).Around point ↔
      ∀ axis : Axis, lower.get axis ≤ point.get axis ∧ point.get axis ≤ upper.get axis :=
  within_finite_iff

/-- A sound box around a box with finite corners has finite corners. -/
theorem Sound.finite_of_within {lower upper : Vec3 ℝ} {outer : Box Exact} (sound : outer.Sound)
    (within : (⟨.ofReal lower, .ofReal upper⟩ : Box Exact).Within outer) :
    ∃ corners : Vec3 ℝ × Vec3 ℝ, (∀ axis : Axis, corners.1.get axis ≤ corners.2.get axis) ∧
      outer = ⟨.ofReal corners.1, .ofReal corners.2⟩ := by
  cases sound with
  | empty => exact (within .x).1.elim
  | @finite outerLower outerUpper ordered => exact ⟨⟨outerLower, outerUpper⟩, ordered, rfl⟩

/-! ## Unions -/

/-- The union of two sound boxes is the least box around them. -/
theorem within_union_iff {first second outer : Box Exact} (firstSound : first.Sound)
    (secondSound : second.Sound) :
    (first.union second).Within outer ↔ first.Within outer ∧ second.Within outer := by
  simp only [Within, get_lower_union, get_upper_union, ← forall_and]
  refine forall_congr' fun axis => ?_
  rw [le_minNum_iff (firstSound.defined_lower axis) (secondSound.defined_lower axis),
    maxNum_le_iff (firstSound.defined_upper axis) (secondSound.defined_upper axis)]
  exact and_and_and_comm

/-- The empty box is neutral for unions. -/
theorem Defined.empty_union {box : Box Exact} (defined : box.Defined) :
    Box.empty.union box = box := by
  refine Box.ext (Vec3.ext_get fun axis => ?_) (Vec3.ext_get fun axis => ?_)
  · rw [get_lower_union, get_lower_empty, minNum_infinity_left (defined axis).1]
  · rw [get_upper_union, get_upper_empty, maxNum_negInfinity_left (defined axis).2]

theorem Sound.empty_union {box : Box Exact} (sound : box.Sound) : Box.empty.union box = box :=
  sound.defined.empty_union

/-- Two boxes may be united with another one in either order. -/
theorem union_right_comm (first second third : Box Exact) :
    (first.union second).union third = (first.union third).union second := by
  refine Box.ext (Vec3.ext_get fun axis => ?_) (Vec3.ext_get fun axis => ?_)
  · simp only [get_lower_union]
    exact minNum_right_comm _ _ _
  · simp only [get_upper_union]
    exact maxNum_right_comm _ _ _

theorem Sound.union_empty {box : Box Exact} (sound : box.Sound) : box.union Box.empty = box := by
  refine Box.ext (Vec3.ext_get fun axis => ?_) (Vec3.ext_get fun axis => ?_)
  · rw [get_lower_union, get_lower_empty, minNum_infinity_right (sound.defined_lower axis)]
  · rw [get_upper_union, get_upper_empty, maxNum_negInfinity_right (sound.defined_upper axis)]

theorem union_finite (firstLower firstUpper secondLower secondUpper : Vec3 ℝ) :
    Box.union ⟨.ofReal firstLower, .ofReal firstUpper⟩
        ⟨.ofReal secondLower, .ofReal secondUpper⟩ =
      ⟨.ofReal (Vec3.zipWith min firstLower secondLower),
        .ofReal (Vec3.zipWith max firstUpper secondUpper)⟩ := by
  refine Box.ext (Vec3.ext_get fun axis => ?_) (Vec3.ext_get fun axis => ?_)
  · rw [get_lower_union, Vec3.get_ofReal, Vec3.get_ofReal, minNum_real]
    cases axis <;> rfl
  · rw [get_upper_union, Vec3.get_ofReal, Vec3.get_ofReal, maxNum_real]
    cases axis <;> rfl

theorem Sound.union {first second : Box Exact} (firstSound : first.Sound)
    (secondSound : second.Sound) : (first.union second).Sound := by
  cases firstSound with
  | empty => exact secondSound.empty_union.symm ▸ secondSound
  | @finite firstLower firstUpper firstOrdered =>
    cases secondSound with
    | empty => exact (Sound.finite firstOrdered).union_empty.symm ▸ .finite firstOrdered
    | @finite secondLower secondUpper secondOrdered =>
      rw [union_finite]
      apply Sound.finite
      intro axis
      have ordered : min (firstLower.get axis) (secondLower.get axis) ≤
          max (firstUpper.get axis) (secondUpper.get axis) :=
        (min_le_left _ _).trans ((firstOrdered axis).trans (le_max_left _ _))
      cases axis <;> exact ordered

theorem sound_foldl_union {boxes : List (Box Exact)} {start : Box Exact} (startSound : start.Sound)
    (sound : ∀ box ∈ boxes, box.Sound) : (boxes.foldl Box.union start).Sound := by
  induction boxes generalizing start with
  | nil => exact startSound
  | cons box rest ih =>
    exact ih (startSound.union (sound box List.mem_cons_self))
      fun other member => sound other (List.mem_cons_of_mem _ member)

theorem sound_unionAll {boxes : List (Box Exact)} (sound : ∀ box ∈ boxes, box.Sound) :
    (unionAll boxes).Sound :=
  sound_foldl_union .empty sound

theorem within_foldl_union_iff {boxes : List (Box Exact)} {start outer : Box Exact}
    (startSound : start.Sound) (sound : ∀ box ∈ boxes, box.Sound) :
    (boxes.foldl Box.union start).Within outer ↔
      start.Within outer ∧ ∀ box ∈ boxes, box.Within outer := by
  induction boxes generalizing start with
  | nil => simp
  | cons box rest ih =>
    have boxSound := sound box List.mem_cons_self
    have restSound : ∀ other ∈ rest, other.Sound :=
      fun other member => sound other (List.mem_cons_of_mem _ member)
    rw [List.foldl_cons, ih (startSound.union boxSound) restSound,
      within_union_iff startSound boxSound, List.forall_mem_cons, and_assoc]

/-- **The union of a list of sound boxes is the least sound box around them.** -/
theorem within_unionAll_iff {boxes : List (Box Exact)} {outer : Box Exact}
    (sound : ∀ box ∈ boxes, box.Sound) (outerSound : outer.Sound) :
    (unionAll boxes).Within outer ↔ ∀ box ∈ boxes, box.Within outer :=
  (within_foldl_union_iff .empty sound).trans (and_iff_right outerSound.empty_within)

theorem within_unionAll {boxes : List (Box Exact)} (sound : ∀ box ∈ boxes, box.Sound)
    {box : Box Exact} (member : box ∈ boxes) : box.Within (unionAll boxes) := by
  have whole := sound_unionAll sound
  exact (within_unionAll_iff sound whole).mp whole.within_refl box member

/-- More boxes have a larger union. -/
theorem unionAll_within_unionAll {fewer more : List (Box Exact)} (subset : fewer ⊆ more)
    (sound : ∀ box ∈ more, box.Sound) : (unionAll fewer).Within (unionAll more) :=
  (within_unionAll_iff (fun box member => sound box (subset member)) (sound_unionAll sound)).mpr
    fun _ member => within_unionAll sound (subset member)

/-- The order of boxes does not matter to their union. -/
theorem unionAll_perm {first second : List (Box Exact)} (perm : first.Perm second) :
    unionAll first = unionAll second :=
  have : RightCommutative (union : Box Exact → Box Exact → Box Exact) := ⟨union_right_comm⟩
  perm.foldl_eq Box.empty

/-- The union of two lists of boxes is the union of both unions. -/
theorem unionAll_append {first second : List (Box Exact)} (firstSound : ∀ box ∈ first, box.Sound)
    (secondSound : ∀ box ∈ second, box.Sound) :
    unionAll (first ++ second) = (unionAll first).union (unionAll second) := by
  have left := sound_unionAll firstSound
  have right := sound_unionAll secondSound
  have joined := left.union right
  have appended : (unionAll (first ++ second)).Sound := by
    rw [unionAll, List.foldl_append]
    exact sound_foldl_union left secondSound
  -- Both sides lie within the same boxes, so within each other.
  have same {outer : Box Exact} (outerSound : outer.Sound) :
      (unionAll (first ++ second)).Within outer ↔
        ((unionAll first).union (unionAll second)).Within outer := by
    rw [within_union_iff left right, within_unionAll_iff secondSound outerSound, unionAll,
      List.foldl_append]
    exact within_foldl_union_iff left secondSound
  exact ((same joined).mpr joined.within_refl).antisymm ((same appended).mp appended.within_refl)

/-! ## Boxes around points -/

section Points

variable {points : List (Vec3 Exact)} (finite : ∀ point ∈ points, point.IsFinite)
include finite

theorem sound_map_ofPoint : ∀ box ∈ points.map ofPoint, box.Sound := by
  rw [List.forall_mem_map]
  intro point isPoint
  obtain ⟨components, rfl⟩ := finite point isPoint
  exact sound_ofPoint components

theorem sound_ofPoints : (ofPoints points).Sound := by
  rw [ofPoints_eq_unionAll]
  exact sound_unionAll (sound_map_ofPoint finite)

/-- The box of some points is the least sound box around them. -/
theorem within_ofPoints_iff {outer : Box Exact} (outerSound : outer.Sound) :
    (ofPoints points).Within outer ↔ ∀ point ∈ points, (ofPoint point).Within outer := by
  rw [ofPoints_eq_unionAll, within_unionAll_iff (sound_map_ofPoint finite) outerSound,
    List.forall_mem_map]

theorem around_ofPoints {point : Vec3 ℝ} (member : .ofReal point ∈ points) :
    (ofPoints points).Around point := by
  have sound := sound_ofPoints finite
  exact (within_ofPoints_iff finite sound).mp sound.within_refl _ member

end Points

/-- The smallest box around three finite points. -/
theorem ofPoints_three (first second third : Vec3 ℝ) :
    ofPoints [.ofReal first, .ofReal second, .ofReal third] =
      ⟨.ofReal (Vec3.zipWith min (Vec3.zipWith min first second) third),
        .ofReal (Vec3.zipWith max (Vec3.zipWith max first second) third)⟩ := by
  rw [ofPoints_eq_unionAll]
  change ((Box.empty.union (ofPoint _)).union (ofPoint _)).union (ofPoint _) = _
  rw [(sound_ofPoint first).empty_union, ofPoint, ofPoint, union_finite, ofPoint, union_finite]

/-! ## Padding -/

theorem isEmpty_empty : (empty : Box Exact).isEmpty = true :=
  decide_eq_true (.inl (trivial : negInfinity < infinity))

theorem padded_empty (margin : Exact) : (empty : Box Exact).padded margin = empty :=
  if_pos isEmpty_empty

theorem padded_finite {lower upper : Vec3 ℝ} (margin : ℝ)
    (ordered : ∀ axis : Axis, lower.get axis ≤ upper.get axis) :
    Box.padded ⟨.ofReal lower, .ofReal upper⟩ (real margin) =
      ⟨.ofReal (lower.map (· - margin)), .ofReal (upper.map (· + margin))⟩ := by
  have nonempty : Box.isEmpty (⟨.ofReal lower, .ofReal upper⟩ : Box Exact) = false := by
    refine decide_eq_false ?_
    rintro (crossed | crossed | crossed)
    · exact (ordered .x).not_gt crossed
    · exact (ordered .y).not_gt crossed
    · exact (ordered .z).not_gt crossed
  rw [padded, nonempty, if_neg Bool.false_ne_true]
  refine Box.ext (Vec3.ext_get fun axis => ?_) (Vec3.ext_get fun axis => ?_)
  · cases axis <;> exact real_sub_real _ _
  · cases axis <;> rfl

theorem Sound.padded {box : Box Exact} (sound : box.Sound) {margin : ℝ} (positive : 0 ≤ margin) :
    (box.padded (real margin)).Sound := by
  cases sound with
  | empty => exact (padded_empty _).symm ▸ .empty
  | @finite lower upper ordered =>
    rw [padded_finite margin ordered]
    apply Sound.finite
    intro axis
    have wider : lower.get axis - margin ≤ upper.get axis + margin := by
      linarith [ordered axis]
    cases axis <;> exact wider

/-- Padding takes nothing away from a box. -/
theorem Sound.within_padded {box : Box Exact} (sound : box.Sound) {margin : ℝ}
    (nonneg : 0 ≤ margin) : box.Within (box.padded (real margin)) := by
  cases sound with
  | empty =>
    rw [padded_empty]
    exact Sound.empty.within_refl
  | @finite lower upper ordered =>
    rw [padded_finite margin ordered, within_finite_iff]
    intro axis
    have wider : lower.get axis - margin ≤ lower.get axis ∧
        upper.get axis ≤ upper.get axis + margin :=
      ⟨sub_le_self _ nonneg, le_add_of_nonneg_right nonneg⟩
    cases axis <;> exact wider

/-- A padded box has room for a margin on every side of its points. -/
theorem around_padded {box : Box Exact} (sound : box.Sound) {margin : ℝ} {point shifted : Vec3 ℝ}
    (around : box.Around point)
    (close : ∀ axis : Axis, |shifted.get axis - point.get axis| ≤ margin) :
    (box.padded (real margin)).Around shifted := by
  obtain ⟨⟨lower, upper⟩, ordered, rfl⟩ := sound.finite_of_within around
  rw [padded_finite margin ordered, around_finite_iff]
  intro axis
  have inside := around_finite_iff.mp around axis
  have near := abs_le.mp (close axis)
  have room : lower.get axis - margin ≤ shifted.get axis ∧
      shifted.get axis ≤ upper.get axis + margin := ⟨by linarith, by linarith⟩
  cases axis <;> exact room

/-! ## The slab test -/

/-- **A ray that meets a sound box meets every sound box around it.** -/
theorem meets_of_within {inner outer : Box Exact} (innerSound : inner.Sound)
    (outerSound : outer.Sound) (within : inner.Within outer) {ray : Ray Exact}
    (finite : ray.IsFinite) {bound : Exact} (meets : inner.meets ray bound = true) :
    outer.meets ray bound = true := by
  obtain ⟨ray, rfl⟩ := finite.eq_ofReal
  cases innerSound with
  | empty => exact absurd meets (by rw [meets_empty]; exact Bool.false_ne_true)
  | @finite lower upper ordered =>
    obtain ⟨⟨outerLower, outerUpper⟩, -, rfl⟩ := outerSound.finite_of_within within
    have wider := within_finite_iff.mp within
    have passes {lambda : ℝ} (passes : Passes lower upper ray lambda) :
        Passes outerLower outerUpper ray lambda :=
      fun axis => ⟨(wider axis).1.trans (passes axis).1, (passes axis).2.trans (wider axis).2⟩
    rw [meets_iff] at meets ⊢
    obtain ⟨⟨after, positive, passesAfter⟩, before, below, passesBefore⟩ := meets
    exact ⟨⟨after, positive, passes passesAfter⟩, before, below, passes passesBefore⟩

end Box

end RayTracer
