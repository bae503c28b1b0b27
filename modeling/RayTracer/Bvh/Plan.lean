import RayTracer.Bvh.Split

/-!
# Planning a node

A range of few items always forms a leaf, one of a moderate number when no split
is cheaper than none, and one of many items never. When all splits cost the
same, or none pays, many items are cut in the middle, so that the tree stays
balanced.

Whatever is decided, the range keeps its items (`perm_of_plan_eq_leaf`,
`perm_of_plan_eq_cut`), and a cut leaves some on both sides
(`inside_of_plan_eq_cut`).
-/

set_option autoImplicit false

namespace RayTracer.Bvh

variable {S : Type} [Scalar S]

/-- As many items as this always form a leaf. -/
def leafSize : Nat := 4

/-- As many items as this form a leaf when no split pays. -/
def maxLeafSize : Nat := 16

/-- What becomes of a range, with the range in the order in which it is left. -/
inductive Plan (S : Type) where
  /-- The range forms a leaf. -/
  | leaf (placed : List (Item S))
  /-- The range is cut at a position. -/
  | cut (placed : List (Item S)) (position : Nat)
deriving Repr

/-- A split pays when it is cheaper than testing all items, by more than the tolerance. -/
def paysOff (range : List (Item S)) (split : Split S) : Bool :=
  let together := (boundsOf range).area * Scalar.ofNat range.length
  decide (split.cost < together * (1 - costTolerance))

/-- The position at which many items are cut: that of the best split when it
pays and stands out, and the middle otherwise. -/
def cutPosition (count : Nat) (choice : Choice S) (pays : Bool) : Nat :=
  if pays && !choice.uniform then choice.split.position else count / 2

/-- Decide what becomes of a range. One that does not form a small leaf is left
sorted for its best split. -/
def plan (range : List (Item S)) : Plan S :=
  let count := range.length
  if count ≤ leafSize then .leaf range
  else
    let choice := bestSplit range
    let pays := paysOff range choice.split
    if count ≤ maxLeafSize ∧ !pays then .leaf choice.range
    else .cut choice.range (cutPosition count choice pays)

theorem plan_eq (range : List (Item S)) :
    plan range =
      if range.length ≤ leafSize then .leaf range
      else if range.length ≤ maxLeafSize ∧ !paysOff range (bestSplit range).split then
        .leaf (bestSplit range).range
      else
        .cut (bestSplit range).range (cutPosition range.length (bestSplit range)
          (paysOff range (bestSplit range).split)) :=
  rfl

section Planned

variable {range placed : List (Item S)}

theorem perm_of_plan_eq_leaf (planned : plan range = .leaf placed) : placed.Perm range := by
  rw [plan_eq] at planned
  split at planned
  · injection planned with same
    exact same ▸ .refl range
  · split at planned
    · injection planned with same
      exact same ▸ bestSplit_perm range
    · cases planned

/-- What is known of a range that is cut. -/
theorem of_plan_eq_cut {position : Nat} (planned : plan range = .cut placed position) :
    leafSize < range.length ∧ placed = (bestSplit range).range ∧
      position = cutPosition range.length (bestSplit range)
        (paysOff range (bestSplit range).split) := by
  rw [plan_eq] at planned
  split at planned
  · cases planned
  · rename_i many
    split at planned
    · cases planned
    · injection planned with isPlaced isPosition
      exact ⟨Nat.lt_of_not_le many, isPlaced.symm, isPosition.symm⟩

theorem perm_of_plan_eq_cut {position : Nat} (planned : plan range = .cut placed position) :
    placed.Perm range := by
  obtain ⟨-, rfl, -⟩ := of_plan_eq_cut planned
  exact bestSplit_perm range

/-- **A cut is strictly inside its range.** -/
theorem inside_of_plan_eq_cut {position : Nat} (planned : plan range = .cut placed position) :
    0 < position ∧ position < range.length := by
  obtain ⟨many, -, rfl⟩ := of_plan_eq_cut planned
  have several : 2 ≤ range.length := Nat.le_trans (by decide) many
  obtain ⟨positive, below⟩ := proper_bestSplit several
  unfold cutPosition
  split
  · exact ⟨positive, below⟩
  · omega

end Planned

end RayTracer.Bvh
