import RayTracer.Proofs.Box.Area
import Mathlib.Order.Lattice

/-!
# The semilattice of boxes

In exact arithmetic the sound boxes are ordered by containment: one box lies within another
exactly when all its points are points of the other (`Box.Sound.points_subset_iff`). With
the union for the join and the empty box for the least element they form a join semilattice
(`SoundBox`), so the laws of unions are those of joins.

The hull of a set of points is the smallest sound box around it (`Box.IsHull`). A union is
the hull of the points of both boxes, and the box that is worked out for a list of points is
the hull of these points (`Box.isHull_union`, `Box.isHull_ofPoints`). Together with the laws
of unions, with padding and with the surface area, this is what a construction of a tree of
boxes relies on (`Box.semilattice_of_sound`).
-/

set_option autoImplicit false

namespace RayTracer

open Exact

/-- A box that is empty or has finite corners in order. -/
@[ext] structure SoundBox where
  /-- The box. -/
  box : Box Exact
  /-- The box is sound. -/
  sound : box.Sound

namespace SoundBox

/-- Sound boxes are ordered by containment. -/
instance instPartialOrder : PartialOrder SoundBox where
  le inner outer := inner.box.Within outer.box
  le_refl whole := whole.sound.within_refl
  le_trans _ _ _ := Box.Within.trans
  le_antisymm _ _ within around := SoundBox.ext (within.antisymm around)

theorem union_within_iff {first second outer : SoundBox} :
    (first.box.union second.box).Within outer.box ↔ first ≤ outer ∧ second ≤ outer :=
  Box.within_union_iff first.sound second.sound

/-- The join of two sound boxes is their union. -/
noncomputable instance instSemilatticeSup : SemilatticeSup SoundBox where
  sup first second := ⟨first.box.union second.box, first.sound.union second.sound⟩
  le_sup_left first second :=
    (union_within_iff.mp (first.sound.union second.sound).within_refl).1
  le_sup_right first second :=
    (union_within_iff.mp (first.sound.union second.sound).within_refl).2
  sup_le _ _ _ firstWithin secondWithin := union_within_iff.mpr ⟨firstWithin, secondWithin⟩

/-- The least sound box is the empty one. -/
noncomputable instance instOrderBot : OrderBot SoundBox where
  bot := ⟨.empty, .empty⟩
  bot_le whole := whole.sound.empty_within

end SoundBox

namespace Box

/-! ## Points -/

/-- The finite points that a box contains. -/
def points (box : Box Exact) : Set (Vec3 ℝ) := {point | box.contains (.ofReal point) = true}

theorem mem_points_iff {box : Box Exact} {point : Vec3 ℝ} :
    point ∈ box.points ↔ box.Around point :=
  contains_iff_around

/-- **Containment of sound boxes is that of their points.** -/
theorem Sound.points_subset_iff {inner outer : Box Exact} (sound : inner.Sound)
    (outerSound : outer.Sound) : inner.points ⊆ outer.points ↔ inner.Within outer := by
  simp only [Set.subset_def, mem_points_iff]
  constructor
  · intro subset
    cases sound with
    | empty => exact outerSound.empty_within
    | @finite lower upper ordered =>
      -- The two corners are points of the box.
      have atLower := subset lower (around_finite_iff.mpr fun axis => ⟨le_rfl, ordered axis⟩)
      have atUpper := subset upper (around_finite_iff.mpr fun axis => ⟨ordered axis, le_rfl⟩)
      exact fun axis => ⟨(atLower axis).1, (atUpper axis).2⟩
  · intro within point around
    exact around.trans within

/-! ## Hulls -/

/-- The smallest sound box around a set of points. -/
structure IsHull (box : Box Exact) (region : Set (Vec3 ℝ)) : Prop where
  sound : box.Sound
  around : region ⊆ box.points
  least {outer : Box Exact} (outerSound : outer.Sound) (around : region ⊆ outer.points) :
    box.points ⊆ outer.points

/-- A box is a hull when it lies within the sound boxes around a set and no others. -/
theorem IsHull.of_within_iff {box : Box Exact} {region : Set (Vec3 ℝ)} (sound : box.Sound)
    (within_iff : ∀ outer : Box Exact, outer.Sound →
      (box.Within outer ↔ region ⊆ outer.points)) : box.IsHull region where
  sound := sound
  around := (within_iff box sound).mp sound.within_refl
  least outerSound around :=
    (sound.points_subset_iff outerSound).mpr ((within_iff _ outerSound).mpr around)

/-- **A union is the hull of the points of both boxes.** -/
theorem isHull_union {first second : Box Exact} (firstSound : first.Sound)
    (secondSound : second.Sound) : (first.union second).IsHull (first.points ∪ second.points) := by
  refine .of_within_iff (firstSound.union secondSound) fun outer outerSound => ?_
  rw [within_union_iff firstSound secondSound, Set.union_subset_iff,
    firstSound.points_subset_iff outerSound, secondSound.points_subset_iff outerSound]

/-- **The box worked out for a list of points is the hull of these points.** -/
theorem isHull_ofPoints (points : List (Vec3 ℝ)) :
    (ofPoints (points.map .ofReal)).IsHull {point | point ∈ points} := by
  have finite : ∀ point ∈ points.map Vec3.ofReal, point.IsFinite :=
    List.forall_mem_map.mpr fun point _ => point.isFinite_ofReal
  refine .of_within_iff (sound_ofPoints finite) fun outer outerSound => ?_
  rw [within_ofPoints_iff finite outerSound, List.forall_mem_map]
  exact forall₂_congr fun point _ => mem_points_iff.symm

theorem ofPoints_perm {points others : List (Vec3 Exact)} (perm : points.Perm others) :
    ofPoints points = ofPoints others := by
  rw [ofPoints_eq_unionAll, ofPoints_eq_unionAll, unionAll_perm (perm.map ofPoint)]

/-! ## The laws of boxes -/

namespace Sound

variable {first second third : Box Exact} (firstSound : first.Sound)
include firstSound

theorem union_self : first.union first = first :=
  congrArg SoundBox.box (sup_idem (⟨first, firstSound⟩ : SoundBox))

variable (secondSound : second.Sound)
include secondSound

theorem union_comm : first.union second = second.union first :=
  congrArg SoundBox.box (sup_comm (⟨first, firstSound⟩ : SoundBox) ⟨second, secondSound⟩)

theorem union_assoc (thirdSound : third.Sound) :
    (first.union second).union third = first.union (second.union third) :=
  congrArg SoundBox.box
    (sup_assoc (⟨first, firstSound⟩ : SoundBox) ⟨second, secondSound⟩ ⟨third, thirdSound⟩)

end Sound

/-- **Boxes form a join semilattice, and larger boxes have no smaller surfaces.** Boxes that
are empty or have finite corners in order may be united in any order and grouping, and a box
stays as it is when it is united with itself or with the empty box. A union is the smallest
box around both boxes. The box worked out for a list of points is the smallest around them,
and their order does not matter. Padding keeps all points of a box, and a box has no more
surface area than one with all its points. -/
theorem semilattice_of_sound {first second third : Box Exact} (firstSound : first.Sound)
    (secondSound : second.Sound) (thirdSound : third.Sound) {margin : ℝ} (nonneg : 0 ≤ margin)
    (points : List (Vec3 ℝ)) :
    first.union second = second.union first ∧
    (first.union second).union third = first.union (second.union third) ∧
    first.union first = first ∧ Box.empty.union first = first ∧ first.union Box.empty = first ∧
    (first.union second).IsHull (first.points ∪ second.points) ∧
    (ofPoints (points.map .ofReal)).IsHull {point | point ∈ points} ∧
    (∀ others, points.Perm others →
      ofPoints (others.map .ofReal) = ofPoints (points.map .ofReal)) ∧
    first.points ⊆ (first.padded (real margin)).points ∧
    (first.points ⊆ second.points → first.area ≤ second.area) := by
  refine ⟨firstSound.union_comm secondSound, firstSound.union_assoc secondSound thirdSound,
    firstSound.union_self, firstSound.empty_union, firstSound.union_empty,
    isHull_union firstSound secondSound, isHull_ofPoints points, ?_, ?_, ?_⟩
  · intro others perm
    exact (ofPoints_perm (perm.map _)).symm
  · rw [firstSound.points_subset_iff (firstSound.padded nonneg)]
    exact firstSound.within_padded nonneg
  · rw [firstSound.points_subset_iff secondSound]
    exact firstSound.area_le_of_within secondSound

/-- A box, a larger one around it, and the empty box, with two points given in both orders. -/
theorem semilattice_of_sound_nested :
    let inner : Box Exact := ⟨.ofReal ⟨-1, 2, 0⟩, .ofReal ⟨1, 5, 3⟩⟩
    let outer : Box Exact := ⟨.ofReal ⟨-1, 2, 0⟩, .ofReal ⟨10, 10, 10⟩⟩
    let corners : List (Vec3 ℝ) := [⟨1, 2, 3⟩, ⟨-1, 5, 0⟩]
    inner.Sound ∧ outer.Sound ∧ (Box.empty : Box Exact).Sound ∧ inner.points ⊆ outer.points ∧
      inner.union outer = outer.union inner ∧
      (inner.union outer).union Box.empty = inner.union (outer.union Box.empty) ∧
      (inner.union outer).IsHull (inner.points ∪ outer.points) ∧
      (ofPoints (corners.map .ofReal)).IsHull {point | point ∈ corners} ∧
      ofPoints (corners.reverse.map .ofReal) = ofPoints (corners.map .ofReal) ∧
      inner.points ⊆ (inner.padded (real 0.5)).points ∧ inner.area ≤ outer.area := by
  intro inner outer corners
  have innerSound : inner.Sound := .finite fun axis => by cases axis <;> norm_num [Vec3.get]
  have outerSound : outer.Sound := .finite fun axis => by cases axis <;> norm_num [Vec3.get]
  have subset : inner.points ⊆ outer.points := by
    rw [innerSound.points_subset_iff outerSound, within_finite_iff]
    intro axis
    cases axis <;> norm_num [Vec3.get]
  have half : (0 : ℝ) ≤ 0.5 := by norm_num
  obtain ⟨comm, assoc, -, -, -, union, hull, anyOrder, room, larger⟩ :=
    semilattice_of_sound innerSound outerSound .empty half corners
  exact ⟨innerSound, outerSound, .empty, subset, comm, assoc, union, hull,
    anyOrder corners.reverse corners.reverse_perm.symm, room, larger subset⟩

end Box

end RayTracer
