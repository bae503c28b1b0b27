import RayTracer.Bvh.Item

/-!
# Choosing a split

A range of items is split by sorting it along an axis and cutting it at a
position. The cost of a split is the surface area of the box of each part times
the number of items in it. Every position along every axis is a candidate; the
cheapest wins, and of equally cheap ones the first in the order of axes and
positions.

Two areas are swept for each sorted range: the boxes of its initial parts from
the front, and of its final parts from the back.

There is one range, which is sorted again and again: along each axis in turn,
from the order in which the axis before has left it, and in the end along the
axis of the best split, unless it was sorted along that axis last
(`Survey.resorted`). So the choice of a split also leaves the range in the order
that the split is a cut of. Whatever the costs are, that is the same range in
another order and the cut is a proper one (`bestSplit_perm`,
`proper_bestSplit`).
-/

set_option autoImplicit false

namespace RayTracer.Bvh

/-- A way to split a sorted range in two. -/
structure Split (S : Type) where
  /-- The axis along which the range is sorted. -/
  axis : Axis
  /-- The number of items in the first part. -/
  position : Nat
  /-- The expected cost of testing a ray against the two parts. -/
  cost : S
deriving Repr, DecidableEq

/-- What is known after some sweeps over a range. -/
structure Survey (S : Type) where
  /-- The range in its present order. -/
  range : List (Item S)
  /-- The cheapest split so far. -/
  best : Split S
  /-- The highest cost so far. -/
  worst : S
deriving Repr

/-- A chosen split and the range that it is a cut of. -/
structure Choice (S : Type) where
  /-- The split. -/
  split : Split S
  /-- All candidates cost the same, up to the tolerance. -/
  uniform : Bool
  /-- The range in the order in which it was left. -/
  range : List (Item S)
deriving Repr

variable {S : Type} [Scalar S]

/-- The relative difference up to which two costs count as equal. -/
def costTolerance : S := 1e-9

/-! ## Candidates -/

/-- The areas of the boxes of the initial parts of a list, from the empty part
to the whole list. -/
def partAreas (items : List (Item S)) : List S :=
  (items.scanl (fun bounds item => bounds.union item.box) Box.empty).map Box.area

/-- The cost of cutting at a position, from the areas of the two parts. -/
def splitCost (count position : Nat) (firstArea secondArea : S) : S :=
  firstArea * Scalar.ofNat position + secondArea * Scalar.ofNat (count - position)

/-- The candidate splits of a range sorted along an axis, by position. -/
def splitsOf (axis : Axis) (sorted : List (Item S)) : List (Split S) :=
  let count := sorted.length
  let firstAreas := partAreas sorted
  let secondAreas := (partAreas sorted.reverse).reverse
  let positions := (List.range count).drop 1
  List.zipWith (fun position (areas : S × S) =>
      ⟨axis, position, splitCost count position areas.1 areas.2⟩)
    positions ((firstAreas.zip secondAreas).drop 1)

/-- The cheaper of two splits, the first when neither is. -/
def Split.cheaper (best candidate : Split S) : Split S :=
  if candidate.cost < best.cost then candidate else best

/-- The split in the middle, taken when no candidate has a cost below infinity. -/
def middleSplit (count : Nat) : Split S := ⟨.x, count / 2, Scalar.infinity⟩

/-! ## Sweeps -/

namespace Survey

/-- Nothing is known yet. -/
def start (range : List (Item S)) : Survey S :=
  ⟨range, middleSplit range.length, -Scalar.infinity⟩

/-- Take one more candidate into account. -/
def consider (survey : Survey S) (candidate : Split S) : Survey S :=
  { survey with
    best := survey.best.cheaper candidate
    worst := Scalar.maxNum survey.worst candidate.cost }

/-- Sort the range along an axis and consider its candidates. -/
def sweep (survey : Survey S) (axis : Axis) : Survey S :=
  let sorted := sortAlong axis survey.range
  (splitsOf axis sorted).foldl consider { survey with range := sorted }

/-- What is known after the sweeps along all axes. -/
def ofRange (range : List (Item S)) : Survey S := Axis.all.foldl sweep (start range)

/-- The range along the axis of the best split. The last sweep has left it
sorted along the last axis. -/
def resorted (survey : Survey S) : List (Item S) :=
  if survey.best.axis = .z then survey.range else sortAlong survey.best.axis survey.range

/-- All candidates cost the same as the cheapest, up to the tolerance. -/
def uniform (survey : Survey S) : Bool :=
  decide (survey.worst - survey.best.cost ≤ Scalar.abs survey.worst * costTolerance)

end Survey

/-- The cheapest split of a range, which is left sorted for it. -/
def bestSplit (range : List (Item S)) : Choice S :=
  let survey := Survey.ofRange range
  ⟨survey.best, survey.uniform, survey.resorted⟩

/-! ## What a sweep keeps

The range stays the same but for its order, and the best split so far is the one
in the middle or a candidate of some order of the range. -/

/-- A split is a candidate of a range in some order. -/
def Split.CandidateOf (range : List (Item S)) (split : Split S) : Prop :=
  ∃ sorted : List (Item S), sorted.Perm range ∧ split ∈ splitsOf split.axis sorted

/-- What sweeps over a range have found so far is about that range. -/
structure Survey.About (range : List (Item S)) (survey : Survey S) : Prop where
  perm : survey.range.Perm range
  best : survey.best = middleSplit range.length ∨ survey.best.CandidateOf range

theorem axis_of_mem_splitsOf {axis : Axis} {sorted : List (Item S)} {split : Split S}
    (member : split ∈ splitsOf axis sorted) : split.axis = axis := by
  obtain ⟨index, bound, rfl⟩ := List.mem_iff_getElem.mp member
  simp only [splitsOf, List.getElem_zipWith]

namespace Survey

variable {range : List (Item S)} {survey : Survey S}

@[simp] theorem range_foldl_consider (candidates : List (Split S)) (survey : Survey S) :
    (candidates.foldl consider survey).range = survey.range := by
  induction candidates generalizing survey with
  | nil => rfl
  | cons candidate rest ih => exact ih (survey.consider candidate)

@[simp] theorem best_foldl_consider (candidates : List (Split S)) (survey : Survey S) :
    (candidates.foldl consider survey).best = candidates.foldl Split.cheaper survey.best := by
  induction candidates generalizing survey with
  | nil => rfl
  | cons candidate rest ih => exact ih (survey.consider candidate)

theorem about_start (range : List (Item S)) : (start range).About range := ⟨.refl range, .inl rfl⟩

/-- Of some splits and candidates of a range, one is kept. -/
theorem foldl_cheaper_eq_or_mem (candidates : List (Split S)) (best : Split S) :
    candidates.foldl Split.cheaper best = best ∨
      candidates.foldl Split.cheaper best ∈ candidates := by
  induction candidates generalizing best with
  | nil => exact .inl rfl
  | cons candidate rest ih =>
    obtain isBest | isLater := ih (best.cheaper candidate)
    · rw [List.foldl_cons, isBest, Split.cheaper]
      split
      · exact .inr List.mem_cons_self
      · exact .inl rfl
    · exact .inr (List.mem_cons_of_mem _ isLater)

theorem About.sweep (about : survey.About range) (axis : Axis) :
    (survey.sweep axis).About range := by
  have sorted := (sortAlong_perm axis survey.range).trans about.perm
  unfold Survey.sweep
  refine ⟨by rwa [range_foldl_consider], ?_⟩
  rw [best_foldl_consider]
  obtain isBest | isCandidate := foldl_cheaper_eq_or_mem
    (splitsOf axis (sortAlong axis survey.range)) survey.best
  · rw [isBest]
    exact about.best
  · refine .inr ⟨_, sorted, ?_⟩
    rw [axis_of_mem_splitsOf isCandidate]
    exact isCandidate

theorem About.foldl_sweep (about : survey.About range) (axes : List Axis) :
    (axes.foldl Survey.sweep survey).About range := by
  induction axes generalizing survey with
  | nil => exact about
  | cons axis rest ih => exact ih (about.sweep axis)

theorem about_ofRange (range : List (Item S)) : (ofRange range).About range :=
  (about_start range).foldl_sweep Axis.all

end Survey

/-- Choosing a split leaves the same range in another order. -/
theorem bestSplit_perm (range : List (Item S)) : (bestSplit range).range.Perm range := by
  have perm := (Survey.about_ofRange range).perm
  simp only [bestSplit, Survey.resorted]
  split
  · exact perm
  · exact (sortAlong_perm _ _).trans perm

/-- The best split is a candidate, or it is the one in the middle. -/
theorem bestSplit_eq_or_candidate (range : List (Item S)) :
    (bestSplit range).split = middleSplit range.length ∨
      (bestSplit range).split.CandidateOf range :=
  (Survey.about_ofRange range).best

/-! ## Positions of splits

The cheapest split is a proper one: both parts have items. -/

/-- A split leaves items on both sides. -/
def Split.Proper (split : Split S) (count : Nat) : Prop :=
  0 < split.position ∧ split.position < count

theorem proper_of_mem_splitsOf {axis : Axis} {sorted : List (Item S)} {split : Split S}
    (member : split ∈ splitsOf axis sorted) : split.Proper sorted.length := by
  obtain ⟨index, bound, rfl⟩ := List.mem_iff_getElem.mp member
  simp only [splitsOf, List.length_zipWith, List.length_drop, List.length_range] at bound
  simp only [splitsOf, List.getElem_zipWith, List.getElem_drop, List.getElem_range, Split.Proper]
  omega

theorem Split.CandidateOf.proper {range : List (Item S)} {split : Split S}
    (candidate : split.CandidateOf range) : split.Proper range.length := by
  obtain ⟨sorted, perm, member⟩ := candidate
  exact perm.length_eq ▸ proper_of_mem_splitsOf member

theorem proper_bestSplit {range : List (Item S)} (several : 2 ≤ range.length) :
    (bestSplit range).split.Proper range.length := by
  obtain isMiddle | isCandidate := bestSplit_eq_or_candidate range
  · rw [isMiddle]
    simp only [middleSplit, Split.Proper]
    omega
  · exact isCandidate.proper

end RayTracer.Bvh
