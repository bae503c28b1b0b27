import RayTracer.Proofs.Bvh.Split
import Mathlib.Analysis.SpecialFunctions.Log.Base

/-!
# The levels of a tree

A construction counts levels on the tasks of its stack. What it reports as depth is the
number of levels of the tree that grows (`depth_build`).

Coincident items, which all have the same box, are the case in which splitting gains
nothing: every candidate costs as much as all items together, so that no split pays
(`Coincident.paysOff_eq_false`). As long as they are too many for a leaf they are cut in the
middle, and half of them are again coincident. The number of levels is then logarithmic in
the number of items (`Coincident.levels_grow_le_iff`). This holds for any box, empty and
unbounded ones included.
-/

set_option autoImplicit false

namespace RayTracer

namespace Box

/-- A box that is part of a union adds nothing to it. -/
theorem union_union_self {S : Type} [Scalar S] (first second : Box S) :
    (first.union second).union second = first.union second := by
  refine Box.ext (Vec3.ext_get fun axis => ?_) (Vec3.ext_get fun axis => ?_)
  · simp only [get_lower_union, Scalar.minNum]
    split <;> simp_all
  · simp only [get_upper_union, Scalar.maxNum]
    split <;> simp_all

end Box

namespace Bvh

open Exact

/-! ## Depth -/

section Depth

variable {S : Type} [Scalar S]

/-- **The depth of a tree is its number of levels.** -/
theorem depth_build (positions : Array (Vec3 S)) (faces : Array Face) :
    (build positions faces).depth = (grow (itemsOf positions faces)).levels := by
  have positive := (grow (itemsOf positions faces)).levels_pos
  rw [build_eq_settle, settle, Nat.add_sub_cancel_left]
  exact max_eq_right positive

end Depth

/-! ## Coincident items -/

section Coincident

variable {S : Type} [Scalar S]

/-- All items have the same box. -/
def Coincident (box : Box S) (items : List (Item S)) : Prop := ∀ item ∈ items, item.box = box

omit [Scalar S] in
theorem Coincident.of_subset {box : Box S} {part items : List (Item S)}
    (same : Coincident box items) (subset : part ⊆ items) : Coincident box part :=
  fun item member => same item (subset member)

/-- The box around coincident items. -/
theorem Coincident.boundsOf_eq {box : Box S} {items : List (Item S)} (same : Coincident box items)
    (nonempty : items ≠ []) : boundsOf items = Box.empty.union box := by
  induction items using List.reverseRecOn with
  | nil => exact absurd rfl nonempty
  | append_singleton rest item ih =>
    have isBox := same item (List.mem_append_right _ List.mem_cons_self)
    have appended : boundsOf (rest ++ [item]) = (boundsOf rest).union item.box := by
      rw [boundsOf, List.foldl_append]
      rfl
    rw [appended, isBox]
    by_cases empty : rest = []
    · rw [empty]
      rfl
    · rw [ih (same.of_subset (List.subset_append_left _ _)) empty, Box.union_union_self]

end Coincident

theorem costTolerance_eq_real : (costTolerance : Exact) = real 1e-9 := rfl

/-- Two parts with the area of the whole cost no less than the whole. -/
theorem not_sum_lt {area : Exact} (nonneg : ∀ value, area = real value → 0 ≤ value)
    {count position : Nat} (positive : 0 < position) (below : position < count) :
    ¬area * Scalar.ofNat position + area * Scalar.ofNat (count - position) <
      area * Scalar.ofNat count * (1 - costTolerance) := by
  have firstSome : (0 : ℝ) < position := Nat.cast_pos.mpr positive
  have secondSome : (0 : ℝ) < (count - position : ℕ) := Nat.cast_pos.mpr (Nat.sub_pos_of_lt below)
  simp only [ofNat_eq_real, costTolerance_eq_real, one_eq_real, real_sub_real]
  cases area with
  | undefined => exact fun less => (lt_iff.mp less).1 rfl
  | real value =>
    simp only [real_mul_real, real_add_real, real_lt_real, not_lt]
    have whole : value * position + value * (count - position : ℕ) = value * count := by
      rw [Nat.cast_sub below.le]
      ring
    have total : 0 ≤ value * count := mul_nonneg (nonneg value rfl) (Nat.cast_nonneg count)
    rw [whole]
    linarith
  | infinity =>
    rw [infinity_mul_real, infinity_mul_real, signedInfinity_of_pos firstSome,
      signedInfinity_of_pos secondSome]
    exact fun less => not_top_lt (lt_iff.mp less).2.2
  | negInfinity =>
    have countSome : (0 : ℝ) < count := Nat.cast_pos.mpr (positive.trans below)
    rw [negInfinity_mul_real, negInfinity_mul_real, negInfinity_mul_real,
      signedInfinity_of_neg (neg_neg_of_pos firstSome),
      signedInfinity_of_neg (neg_neg_of_pos secondSome),
      signedInfinity_of_neg (neg_neg_of_pos countSome), negInfinity_mul_real,
      signedInfinity_of_neg (by norm_num)]
    exact fun less => lt_irrefl _ (lt_iff.mp less).2.2

namespace Coincident

variable {box : Box Exact} {items : List (Item Exact)} (same : Coincident box items)
include same

/-- Both parts of a cut have the box of the whole. -/
theorem cutCost_eq {position : Nat} (positive : 0 < position) (below : position < items.length) :
    cutCost items position = (boundsOf items).area * Scalar.ofNat position +
      (boundsOf items).area * Scalar.ofNat (items.length - position) := by
  have whole : items ≠ [] := List.ne_nil_of_length_pos (positive.trans below)
  obtain ⟨first, second⟩ := parts_ne_nil positive below
  rw [cutCost, (same.of_subset (List.take_subset _ _)).boundsOf_eq first,
    (same.of_subset (List.drop_subset _ _)).boundsOf_eq second, same.boundsOf_eq whole]

/-- No split of coincident items pays. -/
theorem paysOff_eq_false : paysOff items (bestSplit items).split = false := by
  refine decide_eq_false ?_
  obtain isMiddle | ⟨sorted, perm, isCandidate⟩ := bestSplit_eq_or_candidate items
  · rw [isMiddle]
    exact fun less => not_top_lt (lt_iff.mp less).2.2
  · obtain ⟨-, ⟨positive, below⟩, isCost⟩ := mem_splitsOf.mp isCandidate
    have stillSame : Coincident box sorted := same.of_subset perm.subset
    rw [isCost, stillSame.cutCost_eq positive below, boundsOf_perm perm, perm.length_eq]
    exact not_sum_lt (fun _ => Box.area_nonneg) positive (perm.length_eq ▸ below)

/-- Few coincident items form a leaf. -/
theorem exists_plan_eq_leaf (few : items.length ≤ maxLeafSize) :
    ∃ placed, plan items = .leaf placed := by
  rw [plan_eq]
  split
  · exact ⟨items, rfl⟩
  · rw [same.paysOff_eq_false, if_pos ⟨few, rfl⟩]
    exact ⟨_, rfl⟩

/-- Many coincident items are cut in the middle. -/
theorem exists_cutInto (many : maxLeafSize < items.length) :
    ∃ first second, CutInto items first second ∧ first.length = items.length / 2 ∧
      second.length = items.length - items.length / 2 := by
  simp only [maxLeafSize] at many
  have length := (bestSplit_perm items).length_eq
  have planned : plan items = .cut (bestSplit items).range (items.length / 2) := by
    rw [plan_eq, if_neg (by simp only [leafSize]; omega),
      if_neg (by simp only [maxLeafSize]; omega), same.paysOff_eq_false]
    rfl
  refine ⟨_, _, ⟨_, _, planned, rfl, rfl⟩, ?_, ?_⟩
  · rw [List.length_take, length]
    omega
  · rw [List.length_drop, length]

/-- **Coincident items need one level more for each doubling of their number.** -/
theorem levels_grow_le_iff (doublings : Nat) :
    (grow items).levels ≤ doublings + 1 ↔ items.length ≤ maxLeafSize * 2 ^ doublings := by
  induction items using plan_induction generalizing doublings with
  | leaf items placed planned =>
    have few : items.length ≤ maxLeafSize := by
      by_contra many
      obtain ⟨first, second, isCut, -⟩ := same.exists_cutInto (not_le.mp many)
      exact isCut.plan_ne_leaf placed planned
    rw [grow_of_leaf planned]
    exact iff_of_true (Nat.le_add_left 1 _)
      (few.trans (Nat.le_mul_of_pos_right _ (Nat.two_pow_pos doublings)))
  | cut items first second isCut ihFirst ihSecond =>
    have many : maxLeafSize < items.length := by
      by_contra few
      obtain ⟨placed, isLeaf⟩ := same.exists_plan_eq_leaf (not_lt.mp few)
      exact isCut.plan_ne_leaf placed isLeaf
    obtain ⟨lower, upper, inHalves, lowerLength, upperLength⟩ := same.exists_cutInto many
    obtain ⟨rfl, rfl⟩ := isCut.unique inHalves
    have parts := isCut.perm.subset
    have firstSame : Coincident box first :=
      same.of_subset fun item member => parts (List.mem_append_left _ member)
    have secondSame : Coincident box second :=
      same.of_subset fun item member => parts (List.mem_append_right _ member)
    rw [grow_of_cut isCut, Growth.levels]
    cases doublings with
    | zero =>
      have := (grow first).levels_pos
      rw [pow_zero, mul_one]
      omega
    | succ doublings =>
      have halves : maxLeafSize * 2 ^ (doublings + 1) = 2 * (maxLeafSize * 2 ^ doublings) := by
        ring
      rw [Nat.add_le_add_iff_right, max_le_iff, ihFirst firstSame, ihSecond secondSame, halves]
      omega

end Coincident

/-! ## Meshes of coincident triangles -/

/-- The order of the vertices of a face does not matter to its box. -/
theorem faceBox_perm (positions : Array (Vec3 Exact)) {first second : Face}
    (perm : first.toList.Perm second.toList) :
    faceBox positions first = faceBox positions second := by
  rw [faceBox, faceBox, Box.ofPoints_eq_unionAll, Box.ofPoints_eq_unionAll,
    Box.unionAll_perm ((perm.filterMap _).map Box.ofPoint)]

section Build

variable {positions : Array (Vec3 Exact)} {faces : Array Face} {box : Box Exact}
  (same : ∀ face ∈ faces, faceBox positions face = box)
include same

theorem coincident_itemsOf : Coincident box (itemsOf positions faces) := by
  intro item member
  obtain ⟨index, face, present, rfl⟩ := mem_itemsOf.mp member
  exact same face (Array.mem_of_getElem? present)

theorem depth_build_le_iff (doublings : Nat) :
    (build positions faces).depth ≤ doublings + 1 ↔ faces.size ≤ 16 * 2 ^ doublings := by
  rw [depth_build, (coincident_itemsOf same).levels_grow_le_iff, length_itemsOf, maxLeafSize]

/-- **Triangles with the same box are halved until sixteen of them form a leaf.** -/
theorem depth_build_of_coincident :
    (faces.size ≤ 16 → (build positions faces).depth = 1) ∧
      (16 < faces.size →
        ((build positions faces).depth : ℤ) = 1 + ⌈Real.logb 2 ((faces.size : ℝ) / 16)⌉) := by
  have depth_pos : 1 ≤ (build positions faces).depth := by
    rw [depth_build]
    exact Growth.levels_pos _
  refine ⟨fun few => ?_, fun many => ?_⟩
  · exact Nat.le_antisymm ((depth_build_le_iff same 0).mpr few) depth_pos
  · obtain ⟨doublings, isDepth⟩ := Nat.exists_eq_add_of_le' depth_pos
    have ratio : (1 : ℝ) ≤ (faces.size : ℝ) / 16 := by
      rw [one_le_div (by norm_num)]
      exact_mod_cast many.le
    -- The logarithm has the same natural numbers above it as the number of doublings.
    have isCeil : ⌈Real.logb 2 ((faces.size : ℝ) / 16)⌉₊ = doublings := by
      refine eq_of_forall_ge_iff fun bound => ?_
      rw [Nat.ceil_le, Real.logb_le_iff_le_rpow one_lt_two (one_pos.trans_le ratio),
        Real.rpow_natCast, div_le_iff₀' (by norm_num), ← Nat.add_le_add_iff_right (n := 1),
        ← isDepth, depth_build_le_iff same]
      norm_cast
    rw [isDepth, ← Int.natCast_ceil_eq_ceil (Real.logb_nonneg one_lt_two ratio), isCeil]
    push_cast
    ring

end Build

/-- Two thousand triangles with the same vertices, half of them turned. -/
theorem depth_build_copies :
    (build #[.ofReal ⟨0, 0, 0⟩, .ofReal ⟨1, 0, 0⟩, .ofReal ⟨0, 1, 0⟩]
      (Array.replicate 1000 ⟨0, 1, 2⟩ ++ Array.replicate 1000 ⟨2, 0, 1⟩)).depth = 8 := by
  have same : ∀ face ∈ Array.replicate 1000 (⟨0, 1, 2⟩ : Face) ++ Array.replicate 1000 ⟨2, 0, 1⟩,
      faceBox #[.ofReal ⟨0, 0, 0⟩, .ofReal ⟨1, 0, 0⟩, .ofReal ⟨0, 1, 0⟩] face =
        faceBox #[.ofReal ⟨0, 0, 0⟩, .ofReal ⟨1, 0, 0⟩, .ofReal ⟨0, 1, 0⟩] ⟨0, 1, 2⟩ := by
    intro face member
    obtain member | member := Array.mem_append.mp member
    · rw [Array.eq_of_mem_replicate member]
    · rw [Array.eq_of_mem_replicate member]
      exact faceBox_perm _ (by decide)
  have ceil : ⌈Real.logb 2 (((2000 : ℕ) : ℝ) / 16)⌉ = 7 := by
    rw [Int.ceil_eq_iff, Real.lt_logb_iff_rpow_lt one_lt_two (by norm_num),
      Real.logb_le_iff_le_rpow one_lt_two (by norm_num)]
    norm_num
  have many := (depth_build_of_coincident same).2
  simp only [Array.size_append, Array.size_replicate, Nat.reduceAdd] at many
  have depth := many (by norm_num)
  rw [ceil] at depth
  exact_mod_cast depth

end Bvh

end RayTracer
