import RayTracer.Proofs.Bvh.Order
import Mathlib.Data.List.Permutation

/-!
# The best split of a range

The candidates of a range sorted along an axis are its cuts: the areas that are swept from
both ends belong to the two parts of each cut (`splitsOf_eq`), so that every candidate has
the cost of its cut (`mem_candidateSplits`). They come in the order of their positions, and
along one axis after the other in the order of axes (`pairwise_candidateSplits`).

Keeping the cheaper of two splits keeps the first of the cheapest seen so far
(`IsFirstCheapest.cheaper`), and so leads to the first of the cheapest of all
(`isFirstCheapest_cheapest`), provided that every candidate costs a number. In a range of
triangles whose boxes have finite corners this is so, and no candidate costs more than all
items together (`exists_cutCost`).

The range is sorted again and again in place. Its triangles are distinct, so it does not
matter from which order a sort starts (`IsRange.sweep_congr`), and the best split is the
cheapest cut of the sorted orders (`IsRange.split_bestSplit`). What the last sort leaves is the
order along the axis of the best split (`IsRange.range_bestSplit`). Both depend on the triangles
in the range only (`IsRange.bestSplit_optimal`).
-/

set_option autoImplicit false

namespace RayTracer.Bvh

open Exact

/-! ## Cuts -/

section Cuts

variable {S : Type} [Scalar S]

/-- The cost of cutting a sorted list of items at a position: for each part, the area of the
union of its boxes times its number of items. -/
def cutCost (sorted : List (Item S)) (position : Nat) : S :=
  (boundsOf (sorted.take position)).area * Scalar.ofNat position +
    (boundsOf (sorted.drop position)).area * Scalar.ofNat (sorted.length - position)

omit [Scalar S] in
/-- A cut between two items leaves some on both sides. -/
theorem parts_ne_nil {items : List (Item S)} {position : Nat} (positive : 0 < position)
    (below : position < items.length) :
    items.take position ≠ [] ∧ items.drop position ≠ [] := by
  rw [← List.length_pos_iff, ← List.length_pos_iff, List.length_take, List.length_drop]
  omega

theorem length_partAreas (items : List (Item S)) : (partAreas items).length = items.length + 1 := by
  rw [partAreas, List.length_map, List.length_scanl]

theorem getElem_partAreas (items : List (Item S)) (position : Nat)
    (bound : position < (partAreas items).length) :
    (partAreas items)[position] = (boundsOf (items.take position)).area := by
  simp only [partAreas, List.getElem_map, List.getElem_scanl]
  rfl

/-- The candidates along an axis are the cuts at all positions. The areas of the final parts
are swept from the back. -/
theorem splitsOf_eq (axis : Axis) (sorted : List (Item S)) :
    splitsOf axis sorted = ((List.range sorted.length).drop 1).map fun position =>
      ⟨axis, position, splitCost sorted.length position (boundsOf (sorted.take position)).area
        (boundsOf (sorted.drop position).reverse).area⟩ := by
  refine List.ext_getElem ?_ fun index bound _ => ?_
  · simp only [splitsOf, List.length_zipWith, List.length_drop, List.length_range,
      List.length_zip, List.length_reverse, length_partAreas, List.length_map]
    omega
  · simp only [splitsOf, List.length_zipWith, List.length_drop, List.length_range] at bound
    have back : sorted.length - (sorted.length - (1 + index)) = 1 + index := by omega
    simp only [splitsOf, List.getElem_zipWith, List.getElem_drop, List.getElem_range,
      List.getElem_zip, List.getElem_reverse, List.getElem_map, getElem_partAreas,
      length_partAreas, List.length_reverse, List.take_reverse, Nat.add_sub_cancel, back]

end Cuts

/-! ## The cheapest candidate -/

/-- A split that is cheaper than all splits before it in a list and no more expensive than
those after it. -/
def IsFirstCheapest (splits : List (Split Exact)) (best : Split Exact) : Prop :=
  ∃ before after, splits = before ++ best :: after ∧
    (∀ split ∈ before, best.cost < split.cost) ∧ ∀ split ∈ after, best.cost ≤ split.cost

/-- One more candidate. -/
theorem IsFirstCheapest.cheaper {seen : List (Split Exact)} {best candidate : Split Exact}
    (isBest : IsFirstCheapest seen best) (bestDefined : best.cost.Defined)
    (candidateDefined : candidate.cost.Defined) :
    IsFirstCheapest (seen ++ [candidate]) (best.cheaper candidate) := by
  obtain ⟨before, after, rfl, higher, atLeast⟩ := isBest
  unfold Split.cheaper
  split
  · rename_i less
    refine ⟨before ++ best :: after, [], rfl, ?_, List.forall_mem_nil _⟩
    rw [List.forall_mem_append, List.forall_mem_cons]
    exact ⟨fun split member => Exact.lt_trans less (higher split member), less,
      fun split member => Exact.lt_of_lt_of_le less (atLeast split member)⟩
  · rename_i notLess
    refine ⟨before, after ++ [candidate], by simp, higher, ?_⟩
    rw [List.forall_mem_append, List.forall_mem_singleton]
    exact ⟨atLeast, (Exact.not_lt candidateDefined bestDefined).mp notLess⟩

theorem IsFirstCheapest.mem {splits : List (Split Exact)} {best : Split Exact}
    (isBest : IsFirstCheapest splits best) : best ∈ splits := by
  obtain ⟨before, after, rfl, -, -⟩ := isBest
  exact List.mem_append_right _ List.mem_cons_self

/-- All remaining candidates. -/
theorem IsFirstCheapest.foldl_cheaper {rest seen : List (Split Exact)} {best : Split Exact}
    (isBest : IsFirstCheapest seen best)
    (defined : ∀ split ∈ seen ++ rest, split.cost.Defined) :
    IsFirstCheapest (seen ++ rest) (rest.foldl Split.cheaper best) := by
  induction rest generalizing seen best with
  | nil => rwa [List.append_nil]
  | cons candidate rest ih =>
    have next := isBest.cheaper (defined best (List.mem_append_left _ isBest.mem))
      (defined candidate (List.mem_append_right _ List.mem_cons_self))
    rw [List.append_cons] at defined ⊢
    exact ih next defined

/-- The first of the cheapest among the candidate splits of a number of items. -/
def cheapest {S : Type} [Scalar S] (count : Nat) (candidates : List (Split S)) : Split S :=
  candidates.foldl Split.cheaper (middleSplit count)

/-- **The cheapest of candidates that cost a number is the first of the cheapest.** -/
theorem isFirstCheapest_cheapest {count : Nat} {candidates : List (Split Exact)}
    (nonempty : candidates ≠ [])
    (numbers : ∀ split ∈ candidates, ∃ value, split.cost = real value) :
    IsFirstCheapest candidates (cheapest count candidates) := by
  have start : IsFirstCheapest [middleSplit count] (middleSplit count) :=
    ⟨[], [], rfl, List.forall_mem_nil _, List.forall_mem_nil _⟩
  have defined : ∀ split ∈ [middleSplit count] ++ candidates, split.cost.Defined := by
    intro split member
    obtain rfl | member := List.mem_cons.mp member
    · exact defined_infinity
    · obtain ⟨value, isValue⟩ := numbers split member
      exact isValue ▸ defined_real value
  obtain ⟨before, after, parts, higher, atLeast⟩ := start.foldl_cheaper defined
  cases before with
  | nil =>
    -- A number is below infinity, so some candidate replaces the split in the middle.
    obtain ⟨middle, rfl⟩ := List.cons_eq_cons.mp parts
    obtain ⟨candidate, rest, rfl⟩ := List.exists_cons_of_ne_nil nonempty
    obtain ⟨value, isValue⟩ := numbers candidate List.mem_cons_self
    have below := atLeast candidate List.mem_cons_self
    rw [← middle, isValue] at below
    exact below.elim
  | cons first before =>
    exact ⟨before, after, (List.cons_eq_cons.mp parts).2,
      fun split member => higher split (List.mem_cons_of_mem _ member), atLeast⟩

namespace IsFirstCheapest

variable {splits : List (Split Exact)} {best split : Split Exact}
  (isBest : IsFirstCheapest splits best)
include isBest

theorem cost_le (defined : best.cost.Defined) (member : split ∈ splits) :
    best.cost ≤ split.cost := by
  obtain ⟨before, after, rfl, higher, atLeast⟩ := isBest
  obtain isBefore | member := List.mem_append.mp member
  · exact Exact.le_of_lt (higher split isBefore)
  · obtain rfl | isAfter := List.mem_cons.mp member
    · exact Exact.le_refl defined
    · exact atLeast split isAfter

/-- Another split of the same cost comes after the first of the cheapest. -/
theorem eq_or_later {earlier : Split Exact → Split Exact → Prop}
    (inOrder : splits.Pairwise earlier) (member : split ∈ splits)
    (same : split.cost = best.cost) : split = best ∨ earlier best split := by
  obtain ⟨before, after, rfl, higher, -⟩ := isBest
  obtain isBefore | member := List.mem_append.mp member
  · have less := higher split isBefore
    rw [same] at less
    exact absurd (lt_iff.mp less).2.2 (lt_irrefl _)
  · obtain isSame | isAfter := List.mem_cons.mp member
    · exact .inl isSame
    · exact .inr ((List.pairwise_cons.mp (List.pairwise_append.mp inOrder).2.1).1 split isAfter)

end IsFirstCheapest

/-! ## The order of the candidates -/

section Order

variable {S : Type} [Scalar S]

/-- The number of axes before an axis. -/
def axisPlace : Axis → Nat
  | .x => 0
  | .y => 1
  | .z => 2

/-- A split comes earlier than another one: along an earlier axis, or at a lower position
along the same axis. -/
def Split.Earlier (first second : Split S) : Prop :=
  axisPlace first.axis < axisPlace second.axis ∨
    first.axis = second.axis ∧ first.position < second.position

/-- The candidate splits of a range, by axis and position. -/
def candidateSplits (items : List (Item S)) : List (Split S) :=
  Axis.all.flatMap fun axis => splitsOf axis (sortAlong axis items)

theorem pairwise_splitsOf (axis : Axis) (sorted : List (Item S)) :
    (splitsOf axis sorted).Pairwise Split.Earlier := by
  rw [splitsOf_eq, List.pairwise_map]
  exact (List.pairwise_lt_range.drop).imp fun less => .inr ⟨rfl, less⟩

theorem pairwise_candidateSplits (items : List (Item S)) :
    (candidateSplits items).Pairwise Split.Earlier := by
  have axes : Axis.all.Pairwise fun first second => axisPlace first < axisPlace second := by
    decide
  rw [candidateSplits, List.pairwise_flatMap]
  refine ⟨fun axis _ => pairwise_splitsOf axis _, axes.imp ?_⟩
  intro firstAxis secondAxis less first isFirst second isSecond
  rw [← axis_of_mem_splitsOf isFirst, ← axis_of_mem_splitsOf isSecond] at less
  exact .inl less

end Order

/-! ## Costs in exact arithmetic -/

theorem boundsOf_perm {first second : List (Item Exact)} (perm : first.Perm second) :
    boundsOf first = boundsOf second := by
  rw [boundsOf_eq_unionAll, boundsOf_eq_unionAll, Box.unionAll_perm (perm.map Item.box)]

theorem finite_boundsOf {items : List (Item Exact)} (nonempty : items ≠ [])
    (finite : ∀ item ∈ items, item.box.IsFinite) : (boundsOf items).IsFinite := by
  rw [boundsOf_eq_unionAll]
  exact Box.finite_unionAll (mt List.map_eq_nil_iff.mp nonempty) (List.forall_mem_map.mpr finite)

/-- Some of the items have no more area around them than all. -/
theorem exists_area_boundsOf {part rest items : List (Item Exact)} (nonempty : part ≠ [])
    (perm : (part ++ rest).Perm items) (finite : ∀ item ∈ items, item.box.IsFinite) :
    ∃ value total, (boundsOf part).area = real value ∧ (boundsOf items).area = real total ∧
      value ≤ total := by
  have allFinite : ∀ item ∈ part ++ rest, item.box.IsFinite :=
    fun item member => finite item (perm.subset member)
  have partFinite : (boundsOf part).IsFinite :=
    finite_boundsOf nonempty fun item member => allFinite item (List.mem_append_left _ member)
  have wholeFinite : (boundsOf (part ++ rest)).IsFinite :=
    finite_boundsOf (List.append_ne_nil_of_left_ne_nil nonempty _) allFinite
  have within : (boundsOf part).Within (boundsOf (part ++ rest)) := by
    rw [boundsOf_eq_unionAll, boundsOf_eq_unionAll, List.map_append]
    refine Box.unionAll_within_append (mt List.map_eq_nil_iff.mp nonempty) ?_
    rw [← List.map_append]
    exact List.forall_mem_map.mpr allFinite
  have atMost := Box.area_le_of_within partFinite wholeFinite within
  obtain ⟨value, -, isValue⟩ := partFinite.exists_area
  obtain ⟨total, -, isTotal⟩ := wholeFinite.exists_area
  rw [isValue, isTotal, real_le_real] at atMost
  exact ⟨value, total, isValue, boundsOf_perm perm ▸ isTotal, atMost⟩

/-- A cut costs a number that is no more than the cost of all items together. -/
theorem exists_cutCost {sorted : List (Item Exact)}
    (finite : ∀ item ∈ sorted, item.box.IsFinite) {position : Nat} (positive : 0 < position)
    (below : position < sorted.length) :
    ∃ value, cutCost sorted position = real value ∧
      real value ≤ (boundsOf sorted).area * Scalar.ofNat sorted.length := by
  obtain ⟨firstSome, secondSome⟩ := parts_ne_nil positive below
  have parts : (sorted.take position ++ sorted.drop position).Perm sorted :=
    .of_eq (List.take_append_drop position sorted)
  obtain ⟨first, whole, isFirst, isWhole, firstLe⟩ := exists_area_boundsOf firstSome parts finite
  obtain ⟨second, total, isSecond, isTotal, secondLe⟩ :=
    exists_area_boundsOf secondSome (List.perm_append_comm.trans parts) finite
  obtain rfl : whole = total := real.inj (isWhole.symm.trans isTotal)
  refine ⟨first * position + second * (sorted.length - position : ℕ), ?_, ?_⟩
  · rw [cutCost, isFirst, isSecond]
    rfl
  · rw [isWhole, ofNat_eq_real, real_mul_real, real_le_real]
    calc first * position + second * (sorted.length - position : ℕ)
        ≤ whole * position + whole * (sorted.length - position : ℕ) := by gcongr
      _ = whole * sorted.length := by rw [Nat.cast_sub below.le]; ring

/-- The candidates along an axis are the cuts of the range in its order along it. -/
theorem mem_splitsOf {axis : Axis} {sorted : List (Item Exact)} {split : Split Exact} :
    split ∈ splitsOf axis sorted ↔ split.axis = axis ∧
      (1 ≤ split.position ∧ split.position < sorted.length) ∧
        split.cost = cutCost sorted split.position := by
  have positions (position : Nat) :
      position ∈ (List.range sorted.length).drop 1 ↔ 1 ≤ position ∧ position < sorted.length := by
    rw [List.range_eq_range', List.drop_range', List.mem_range'_1]
    omega
  -- The areas that are swept from the back are those of reversed lists.
  have swept (position : Nat) := boundsOf_perm (List.reverse_perm (sorted.drop position))
  simp only [splitsOf_eq, List.mem_map, positions, swept, cutCost, splitCost]
  constructor
  · rintro ⟨position, proper, rfl⟩
    exact ⟨rfl, proper, rfl⟩
  · rintro ⟨rfl, proper, isCost⟩
    exact ⟨split.position, proper, by rw [← isCost]⟩

/-- The candidates are the cuts of the sorted orders. -/
theorem mem_candidateSplits {items : List (Item Exact)} {split : Split Exact} :
    split ∈ candidateSplits items ↔ (1 ≤ split.position ∧ split.position < items.length) ∧
      split.cost = cutCost (sortAlong split.axis items) split.position := by
  have length (axis : Axis) := (sortAlong_perm axis items).length_eq
  simp only [candidateSplits, List.mem_flatMap, mem_splitsOf, length]
  constructor
  · rintro ⟨axis, -, rfl, isCut⟩
    exact isCut
  · intro isCut
    exact ⟨split.axis, by cases split.axis <;> decide, rfl, isCut⟩

namespace IsRange

variable {items : List (Item Exact)} (range : IsRange items)
include range

theorem cost_of_mem_candidateSplits {split : Split Exact} (member : split ∈ candidateSplits items) :
    ∃ value, split.cost = real value ∧
      real value ≤ (boundsOf items).area * Scalar.ofNat items.length := by
  obtain ⟨⟨positive, below⟩, isCost⟩ := mem_candidateSplits.mp member
  have perm := sortAlong_perm split.axis items
  have finite := (range.of_perm perm.symm).finite
  have bounded := exists_cutCost finite positive (perm.length_eq.symm ▸ below)
  rwa [← isCost, boundsOf_perm perm, perm.length_eq] at bounded

/-! ## Sorting again and again -/

/-- It does not matter to a sweep in which order it finds the range. -/
theorem sweep_congr {survey : Survey Exact} (perm : survey.range.Perm items) (axis : Axis) :
    survey.sweep axis =
      (splitsOf axis (sortAlong axis items)).foldl Survey.consider
        { survey with range := sortAlong axis items } := by
  rw [Survey.sweep, sortAlong_eq_of_perm axis perm (range.of_perm perm.symm).distinct]

/-- The sweeps along some axes keep the cheapest of the cuts along these axes. -/
theorem best_foldl_sweep {survey : Survey Exact} (perm : survey.range.Perm items)
    (axes : List Axis) :
    (axes.foldl Survey.sweep survey).best =
      (axes.flatMap fun axis => splitsOf axis (sortAlong axis items)).foldl Split.cheaper
        survey.best := by
  induction axes generalizing survey with
  | nil => rfl
  | cons axis rest ih =>
    have swept := range.sweep_congr perm axis
    have sweptPerm : (survey.sweep axis).range.Perm items := by
      rw [swept, Survey.range_foldl_consider]
      exact sortAlong_perm axis items
    rw [List.foldl_cons, ih sweptPerm, swept, Survey.best_foldl_consider, List.flatMap_cons,
      List.foldl_append]

theorem split_bestSplit :
    (bestSplit items).split = cheapest items.length (candidateSplits items) :=
  range.best_foldl_sweep (.refl items) Axis.all

/-- **The range is left in its order along the axis of the best split.** -/
theorem range_bestSplit :
    (bestSplit items).range = sortAlong (bestSplit items).split.axis items := by
  have sorted {other : List (Item Exact)} (perm : other.Perm items) (axis : Axis) :
      sortAlong axis other = sortAlong axis items :=
    sortAlong_eq_of_perm axis perm (range.of_perm perm.symm).distinct
  simp only [bestSplit, Survey.resorted]
  split
  · rename_i last
    -- The last sweep is along the last axis.
    have swept := ((Survey.about_start items).foldl_sweep [.x, .y]).perm
    rw [last, ← sorted swept .z]
    exact Survey.range_foldl_consider ..
  · exact sorted (Survey.about_ofRange items).perm _

/-- It does not matter in which order a range is given. -/
theorem bestSplit_eq_of_perm {other : List (Item Exact)} (perm : items.Perm other) :
    bestSplit other = bestSplit items := by
  have swept : (Survey.start other).sweep .x = (Survey.start items).sweep .x := by
    rw [range.sweep_congr perm.symm, range.sweep_congr (.refl items)]
    simp only [Survey.start, perm.length_eq]
  have surveyed : Survey.ofRange other = Survey.ofRange items :=
    congrArg (fun survey : Survey Exact => (survey.sweep .y).sweep .z) swept
  rw [bestSplit, surveyed]
  rfl

theorem isFirstCheapest_bestSplit (several : 2 ≤ items.length) :
    IsFirstCheapest (candidateSplits items) (bestSplit items).split := by
  rw [range.split_bestSplit]
  have candidate : ⟨.x, 1, cutCost (sortAlong .x items) 1⟩ ∈ candidateSplits items :=
    mem_candidateSplits.mpr ⟨⟨Nat.le_refl 1, several⟩, rfl⟩
  refine isFirstCheapest_cheapest (List.ne_nil_of_mem candidate) fun split member => ?_
  obtain ⟨value, isCost, -⟩ := range.cost_of_mem_candidateSplits member
  exact ⟨value, isCost⟩

end IsRange

/-! ## The best split -/

/-- A choice that is optimal, and the first optimal one in the order of axes and positions. -/
structure IsOptimal (items : List (Item Exact)) (choice : Choice Exact) : Prop where
  /-- Both parts have items. -/
  proper : 1 ≤ choice.split.position ∧ choice.split.position < items.length
  /-- Its cost is that of cutting the range as it is left. -/
  cost_eq : choice.split.cost = cutCost choice.range choice.split.position
  /-- No cut along any axis is cheaper. -/
  cost_le_cutCost : ∀ axis sorted, OrderedAlong axis items sorted →
    ∀ position, 1 ≤ position → position < items.length →
      choice.split.cost ≤ cutCost sorted position
  /-- Every other cut of the same cost comes later. -/
  earlier : ∀ axis sorted, OrderedAlong axis items sorted →
    ∀ position, 1 ≤ position → position < items.length →
      cutCost sorted position = choice.split.cost →
      (choice.split.axis = axis ∧ choice.split.position = position) ∨
        choice.split.Earlier ⟨axis, position, choice.split.cost⟩
  /-- It costs no more than all items together. -/
  cost_le_whole : choice.split.cost ≤ (boundsOf items).area * Scalar.ofNat items.length

namespace IsRange

variable {items : List (Item Exact)} (range : IsRange items)
include range

theorem isOptimal_bestSplit (several : 2 ≤ items.length) : IsOptimal items (bestSplit items) := by
  have isBest := range.isFirstCheapest_bestSplit several
  obtain ⟨proper, isCost⟩ := mem_candidateSplits.mp isBest.mem
  obtain ⟨value, isValue, whole⟩ := range.cost_of_mem_candidateSplits isBest.mem
  have isCandidate {axis : Axis} {sorted : List (Item Exact)}
      (ordered : OrderedAlong axis items sorted) {position : Nat} (positive : 1 ≤ position)
      (below : position < items.length) :
      ⟨axis, position, cutCost sorted position⟩ ∈ candidateSplits items := by
    obtain rfl := ordered.unique (range.orderedAlong_sortAlong axis)
    exact mem_candidateSplits.mpr ⟨⟨positive, below⟩, rfl⟩
  refine ⟨proper, range.range_bestSplit ▸ isCost, ?_, ?_, isValue ▸ whole⟩
  · intro axis sorted ordered position positive below
    exact isBest.cost_le (isValue ▸ defined_real value) (isCandidate ordered positive below)
  · intro axis sorted ordered position positive below same
    obtain isSame | later := isBest.eq_or_later (pairwise_candidateSplits items)
      (isCandidate ordered positive below) same
    · exact .inl (isSame ▸ ⟨rfl, rfl⟩)
    · exact .inr later

/-- **The best split of a range.** Along every axis the items have one order, by the heights
of their centres and by their indices. The range is left in its order along the axis of the
best split, and the best split is the first optimal cut. Neither it nor the order in which
the range is left depends on the order in which it is given. -/
theorem bestSplit_optimal (several : 2 ≤ items.length) :
    (∀ axis, ∃! sorted, OrderedAlong axis items sorted) ∧
    OrderedAlong (bestSplit items).split.axis items (bestSplit items).range ∧
    IsOptimal items (bestSplit items) ∧
    ∀ other, items.Perm other → bestSplit other = bestSplit items := by
  refine ⟨fun axis => ?_, ?_, range.isOptimal_bestSplit several,
    fun other => range.bestSplit_eq_of_perm⟩
  · have ordered := range.orderedAlong_sortAlong axis
    exact ⟨_, ordered, fun sorted other => other.unique ordered⟩
  · rw [range.range_bestSplit]
    exact range.orderedAlong_sortAlong _

end IsRange

/-- The item of a cube with edges of length one at a given corner. -/
noncomputable def unitCube (index : Nat) (corner : Vec3 ℝ) : Item Exact :=
  let box : Box Exact := ⟨.ofReal corner, .ofReal (corner.map (· + 1))⟩
  ⟨index, box, box.centre⟩

theorem centre_unitCube (index : Nat) (corner : Vec3 ℝ) :
    (unitCube index corner).centre = .ofReal (corner.map fun low => 0.5 * (low + (low + 1))) :=
  rfl

theorem isRange_unitCubes (corners : List (Nat × Vec3 ℝ))
    (distinct : (corners.map Prod.fst).Nodup) :
    IsRange (corners.map fun cube => unitCube cube.1 cube.2) where
  distinct := by
    rw [List.map_map]
    exact distinct
  finite := List.forall_mem_map.mpr fun cube _ => ⟨cube.2, cube.2.map (· + 1), rfl⟩
  centred := List.forall_mem_map.mpr fun _ _ => rfl

/-- Two items are cut apart at the same cost in either order. -/
theorem IsRange.cutCost_pair {first second : Item Exact} (range : IsRange [first, second])
    {order other : List (Item Exact)} (perm : order.Perm [first, second])
    (otherPerm : other.Perm [first, second]) : cutCost order 1 = cutCost other 1 := by
  have area {item : Item Exact} (member : item ∈ [first, second]) :
      ∃ value, (boundsOf [item]).area = real value := by
    have finite : ∀ only ∈ [item], only.box.IsFinite :=
      List.forall_mem_singleton.mpr (range.finite item member)
    obtain ⟨value, -, isArea⟩ := (finite_boundsOf (List.cons_ne_nil _ _) finite).exists_area
    exact ⟨value, isArea⟩
  obtain ⟨lower, isLower⟩ := area List.mem_cons_self
  obtain ⟨upper, isUpper⟩ := area (List.mem_cons_of_mem first List.mem_cons_self)
  have cost : cutCost [first, second] 1 = real (lower + upper) := by
    simp [cutCost, isLower, isUpper, ofNat_eq_real, real_add_real]
  have swapped : cutCost [second, first] 1 = real (lower + upper) := by
    simp [cutCost, isLower, isUpper, ofNat_eq_real, real_add_real, add_comm]
  have same {order : List (Item Exact)} (perm : order.Perm [first, second]) :
      cutCost order 1 = real (lower + upper) := by
    obtain rfl | rfl := List.perm_pair.mp perm
    · exact cost
    · exact swapped
  rw [same perm, same otherPerm]

/-- Two cubes are cut apart, whichever comes first. The cuts along all axes cost the same, so
the first axis is chosen, and the range is left sorted along it, not along the last one. -/
theorem bestSplit_two_cubes :
    let choice := bestSplit [unitCube 4 ⟨2, 0, 0⟩, unitCube 7 ⟨0, 0, 0⟩]
    choice.split.axis = .x ∧ choice.split.position = 1 ∧
      choice.range = [unitCube 7 ⟨0, 0, 0⟩, unitCube 4 ⟨2, 0, 0⟩] ∧
      bestSplit [unitCube 7 ⟨0, 0, 0⟩, unitCube 4 ⟨2, 0, 0⟩] = choice := by
  intro choice
  have range : IsRange [unitCube 4 ⟨2, 0, 0⟩, unitCube 7 ⟨0, 0, 0⟩] :=
    isRange_unitCubes [(4, ⟨2, 0, 0⟩), (7, ⟨0, 0, 0⟩)] (by decide)
  obtain ⟨orders, ordered, optimal, same⟩ := range.bestSplit_optimal (Nat.le_refl 2)
  have isOne : choice.split.position = 1 :=
    Nat.le_antisymm (Nat.le_of_lt_succ optimal.proper.2) optimal.proper.1
  have isFirst : choice.split.axis = .x := by
    obtain ⟨sorted, along, -⟩ := orders .x
    have sameCost : cutCost sorted 1 = choice.split.cost := by
      rw [optimal.cost_eq, isOne]
      exact range.cutCost_pair along.1 ordered.1
    obtain ⟨isAxis, -⟩ | earlier | ⟨isAxis, -⟩ :=
      optimal.earlier .x sorted along 1 (Nat.le_refl 1) (by simp) sameCost
    · exact isAxis
    · exact absurd earlier (Nat.not_lt_zero _)
    · exact isAxis
  refine ⟨isFirst, isOne, ?_, same _ (.swap ..)⟩
  obtain isGiven | isTurned := List.perm_pair.mp ordered.1
  · -- The first cube given lies above the second.
    have before := ordered.2
    rw [isGiven, List.pairwise_pair, isFirst, Item.Before, centre_unitCube, centre_unitCube,
      Vec3.get_ofReal, Vec3.get_ofReal, real_lt_real, real.injEq] at before
    norm_num [Vec3.get, Vec3.map] at before
  · exact isTurned

end RayTracer.Bvh
