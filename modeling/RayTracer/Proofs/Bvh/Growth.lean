import RayTracer.Bvh.Build
import Mathlib.Data.List.Basic
import Mathlib.Logic.Relation

/-!
# The tree that a construction grows

Plans are followed recursively by `grow`: a range that forms a leaf is a leaf, and
a range that is cut is a node over what grows from both parts. The construction
of a tree of boxes does the same with a stack of tasks and a shared order. Its
step function does one task, and completing a task together with all tasks it
gives rise to writes the tree that grows from its range into the node array and
the items of the leaves over the range (`settle`, `complete_cons`). The order of
the range is written at every cut, and again under it; what counts is what the
leaves write. So the whole construction writes what grows from all items
(`build_eq_settle`).

A leaf holds its items in the order of the plan, and no item is lost or
duplicated on the way (`perm_items_grow`).
-/

set_option autoImplicit false

namespace RayTracer.Bvh

variable {S : Type} [Scalar S]

/-! ## Cuts -/

/-- The plan of a range cuts it into two parts. -/
def CutInto (range first second : List (Item S)) : Prop :=
  ∃ placed position, plan range = .cut placed position ∧ first = placed.take position ∧
    second = placed.drop position

section Cuts

variable {range first second : List (Item S)} (isCut : CutInto range first second)
include isCut

theorem CutInto.perm : (first ++ second).Perm range := by
  obtain ⟨placed, position, planned, rfl, rfl⟩ := isCut
  rw [List.take_append_drop]
  exact perm_of_plan_eq_cut planned

/-- A cut leaves items in both parts and loses none. -/
theorem CutInto.length :
    0 < first.length ∧ 0 < second.length ∧ first.length + second.length = range.length := by
  have total := isCut.perm.length_eq
  obtain ⟨placed, position, planned, rfl, rfl⟩ := isCut
  have inside := inside_of_plan_eq_cut planned
  have same := (perm_of_plan_eq_cut planned).length_eq
  rw [List.length_append] at total
  refine ⟨?_, ?_, total⟩
  · rw [List.length_take]
    omega
  · rw [List.length_drop]
    omega

/-- What is cut is not a leaf. -/
theorem CutInto.plan_ne_leaf (placed : List (Item S)) : plan range ≠ .leaf placed := by
  obtain ⟨_, _, planned, -⟩ := isCut
  rw [planned]
  exact fun same => nomatch same

/-- A range is cut in one way. -/
theorem CutInto.unique {lower upper : List (Item S)} (other : CutInto range lower upper) :
    first = lower ∧ second = upper := by
  obtain ⟨placed, position, planned, rfl, rfl⟩ := isCut
  obtain ⟨_, _, otherPlanned, rfl, rfl⟩ := other
  obtain ⟨rfl, rfl⟩ := Plan.cut.inj (planned.symm.trans otherPlanned)
  exact ⟨rfl, rfl⟩

end Cuts

/-! ## Growing -/

/-- The boxes and items of a tree of boxes, apart from how it is stored. -/
inductive Growth (S : Type) where
  /-- A leaf with the box around its items. -/
  | leaf (box : Box S) (items : List (Item S))
  /-- A node with the box around the items of both parts. -/
  | inner (box : Box S) (first second : Growth S)

/-- The tree that follows the plans of a range and of its parts. -/
def grow (range : List (Item S)) : Growth S :=
  match _ : plan range with
  | .leaf placed => .leaf (boundsOf range) placed
  | .cut placed position =>
    .inner (boundsOf range) (grow (placed.take position)) (grow (placed.drop position))
termination_by range.length
decreasing_by
  · have := (show CutInto range _ _ from ⟨_, _, ‹_›, rfl, rfl⟩).length
    omega
  · have := (show CutInto range _ _ from ⟨_, _, ‹_›, rfl, rfl⟩).length
    omega

theorem grow_of_leaf {range placed : List (Item S)} (planned : plan range = .leaf placed) :
    grow range = .leaf (boundsOf range) placed := by
  rw [grow]
  split
  · rename_i planned'
    rw [planned'] at planned
    injection planned with same
    rw [same]
  · rename_i planned'
    rw [planned'] at planned
    cases planned

theorem grow_of_cut {range first second : List (Item S)} (isCut : CutInto range first second) :
    grow range = .inner (boundsOf range) (grow first) (grow second) := by
  rw [grow]
  split
  · rename_i planned
    exact absurd planned (isCut.plan_ne_leaf _)
  · rename_i planned
    obtain ⟨rfl, rfl⟩ := isCut.unique ⟨_, _, planned, rfl, rfl⟩
    rfl

/-- Induction along the plans of a range. -/
theorem plan_induction {motive : List (Item S) → Prop}
    (leaf : ∀ range placed, plan range = .leaf placed → motive range)
    (cut : ∀ range first second, CutInto range first second → motive first → motive second →
      motive range)
    (range : List (Item S)) : motive range := by
  induction range using grow.induct with
  | case1 range placed planned => exact leaf range placed planned
  | case2 range placed position planned ihFirst ihSecond =>
    exact cut range _ _ ⟨placed, position, planned, rfl, rfl⟩ ihFirst ihSecond

namespace Growth

/-- The items of the leaves from left to right. -/
def items : Growth S → List (Item S)
  | .leaf _ items => items
  | .inner _ first second => first.items ++ second.items

/-- The number of nodes that are not leaves. -/
def cuts : Growth S → Nat
  | .leaf _ _ => 0
  | .inner _ first second => first.cuts + second.cuts + 1

/-- The number of levels. -/
def levels : Growth S → Nat
  | .leaf _ _ => 1
  | .inner _ first second => max first.levels second.levels + 1

omit [Scalar S] in
theorem levels_pos (growth : Growth S) : 1 ≤ growth.levels := by
  cases growth with
  | leaf box items => exact Nat.le_refl 1
  | inner box first second => exact Nat.le_add_left 1 _

end Growth

theorem perm_items_grow (range : List (Item S)) : (grow range).items.Perm range := by
  induction range using plan_induction with
  | leaf range placed planned =>
    rw [grow_of_leaf planned]
    exact perm_of_plan_eq_leaf planned
  | cut range first second isCut ihFirst ihSecond =>
    rw [grow_of_cut isCut]
    exact (ihFirst.append ihSecond).trans isCut.perm

theorem length_items_grow (range : List (Item S)) : (grow range).items.length = range.length :=
  (perm_items_grow range).length_eq

/-- Every part of a cut has items, so there are fewer cuts than items. -/
theorem cuts_grow_le (range : List (Item S)) : (grow range).cuts ≤ range.length - 1 := by
  induction range using plan_induction with
  | leaf range placed planned =>
    rw [grow_of_leaf planned]
    exact Nat.zero_le _
  | cut range first second isCut ihFirst ihSecond =>
    have lengths := isCut.length
    rw [grow_of_cut isCut]
    simp only [Growth.cuts]
    omega

/-! ## Completing tasks -/

/-- Store a node and allocate its children next to each other. -/
def openNode (box : Box S) (node : Nat) (nodes : Array (Node S)) : Array (Node S) :=
  (allocate nodes).setIfInBounds node ⟨box, .inner nodes.size (nodes.size + 1)⟩

/-- Write the nodes of a tree into a node array, with its root at a given index and
the items of its leaves from a given place on. The children of a node are allocated
before anything under them. -/
def Growth.store : Growth S → Nat → Nat → Array (Node S) → Array (Node S)
  | .leaf box items, node, start, nodes =>
    nodes.setIfInBounds node ⟨box, .leaf start (start + items.length)⟩
  | .inner box first second, node, start, nodes =>
    second.store (nodes.size + 1) (start + first.items.length)
      (first.store nodes.size start (openNode box node nodes))

/-- Write a tree: its nodes with the root at a given index, and the items of its leaves
from a given place on. Its root is on a given level. -/
def settle (growth : Growth S) (node start level : Nat) (tree : Bvh S) : Bvh S where
  nodes := growth.store node start tree.nodes
  order := overwrite tree.order start (growth.items.map Item.index)
  depth := max tree.depth (level + growth.levels - 1)

@[simp] theorem size_openNode (box : Box S) (node : Nat) (nodes : Array (Node S)) :
    (openNode box node nodes).size = nodes.size + 2 := by
  rw [openNode, Array.size_setIfInBounds, size_allocate]

@[simp] theorem size_store (growth : Growth S) (node start : Nat) (nodes : Array (Node S)) :
    (growth.store node start nodes).size = nodes.size + 2 * growth.cuts := by
  induction growth generalizing node start nodes with
  | leaf box items => simp [Growth.store, Growth.cuts]
  | inner box first second ihFirst ihSecond =>
    simp only [Growth.store, ihFirst, ihSecond, size_openNode, Growth.cuts]
    omega

/-- Writing a node, the order of its range and what is under it is writing the tree from
that node: what the order was in between does not matter. -/
theorem settle_settle (box : Box S) (first second : Growth S) (node start level : Nat)
    {tree : Bvh S} {placed : List (Item S)}
    (sameLength : placed.length = first.items.length + second.items.length)
    (inside : start + placed.length ≤ tree.order.size) :
    settle second (tree.nodes.size + 1) (start + first.items.length) (level + 1)
        (settle first tree.nodes.size start (level + 1)
          ⟨openNode box node tree.nodes, overwrite tree.order start (placed.map Item.index),
            max tree.depth level⟩) =
      settle (.inner box first second) node start level tree := by
  simp only [settle, Bvh.mk.injEq]
  refine ⟨rfl, ?_, ?_⟩
  · have split := overwrite_append (overwrite tree.order start (placed.map Item.index)) start
      (first.items.map Item.index) (second.items.map Item.index)
    rw [List.length_map] at split
    rw [← split, ← List.map_append, overwrite_overwrite (by simpa using inside)]
    · rfl
    · simpa using sameLength
  · have firstLevels := first.levels_pos
    have secondLevels := second.levels_pos
    rw [Growth.levels]
    omega

/-- **Completing a task writes the tree that grows from its range.** -/
theorem complete_cons {items : Array (Item S)} (inPlace : InPlace items) {range : List (Item S)}
    {node start stop level : Nat} {tree : Bvh S}
    (read : readItems items tree.order start stop = .ok range)
    (allocated : node < tree.nodes.size) (rest : List Task) :
    complete items ⟨tree, ⟨node, start, stop, level⟩ :: rest⟩ =
      complete items ⟨settle (grow range) node start level tree, rest⟩ := by
  induction range using plan_induction generalizing node start stop level tree rest with
  | leaf range placed planned =>
    have isStop := length_of_readItems read
    rw [← (perm_of_plan_eq_leaf planned).length_eq] at isStop
    rw [complete_of_advance (advance_of_leaf read allocated planned), grow_of_leaf planned]
    simp only [settle, Growth.store, Growth.items, Growth.levels, isStop, Nat.add_sub_cancel]
  | cut range first second isCut ihFirst ihSecond =>
    rw [grow_of_cut isCut]
    obtain ⟨placed, position, planned, rfl, rfl⟩ := isCut
    have perm := perm_of_plan_eq_cut planned
    have within : position ≤ placed.length :=
      perm.length_eq ▸ Nat.le_of_lt (inside_of_plan_eq_cut planned).2
    have firstLength : (grow (placed.take position)).items.length = position := by
      rw [length_items_grow, List.length_take_of_le within]
    have isWhole : placed.length = (grow (placed.take position)).items.length +
        (grow (placed.drop position)).items.length := by
      rw [firstLength, length_items_grow, List.length_drop, Nat.add_sub_cancel' within]
    have placedInside : start + placed.length ≤ tree.order.size := by
      rw [perm.length_eq, length_of_readItems read]
      exact ((readItems_eq_ok_iff inPlace).mp read).1.2
    obtain ⟨readFirst, readSecond⟩ := readItems_parts inPlace read perm within
    let opened : Bvh S := ⟨openNode (boundsOf range) node tree.nodes,
      overwrite tree.order start (placed.map Item.index), max tree.depth level⟩
    let filled := settle (grow (placed.take position)) tree.nodes.size start (level + 1) opened
    have openedSize : opened.nodes.size = tree.nodes.size + 2 := size_openNode ..
    have filledSize : filled.nodes.size =
        opened.nodes.size + 2 * (grow (placed.take position)).cuts := size_store ..
    -- What is under the first part leaves the range of the second alone.
    have readFilled : readItems items filled.order (start + position) stop =
        .ok (placed.drop position) := by
      refine (readItems_overwrite_of_apart items opened.order (.inr ?_)).trans readSecond
      exact Nat.le_of_eq (by rw [List.length_map, firstLength])
    rw [complete_of_advance (advance_of_cut read allocated planned)]
    calc complete items ⟨opened, ⟨tree.nodes.size, start, start + position, level + 1⟩ ::
            ⟨tree.nodes.size + 1, start + position, stop, level + 1⟩ :: rest⟩
        = complete items
            ⟨filled, ⟨tree.nodes.size + 1, start + position, stop, level + 1⟩ :: rest⟩ :=
          ihFirst readFirst (by omega) _
      _ = complete items ⟨settle (grow (placed.drop position)) (tree.nodes.size + 1)
            (start + position) (level + 1) filled, rest⟩ :=
          ihSecond readFilled (by omega) rest
      _ = _ := by
          rw [← settle_settle (boundsOf range) (grow (placed.take position))
            (grow (placed.drop position)) node start level isWhole placedInside, firstLength]

/-- **The construction writes the tree that grows from all items.** -/
theorem build_eq_settle (positions : Array (Vec3 S)) (faces : Array Face) :
    build positions faces =
      settle (grow (itemsOf positions faces)) 0 0 1
        ⟨#[placeholder], Array.range faces.size, 1⟩ := by
  have constructed := construct_eq_build positions faces
  have inPlace := inPlace_itemsOf positions faces
  have read := readItems_itemsOf positions faces
  rw [construct, starting, complete_cons inPlace read Nat.one_pos,
    complete_of_done rfl] at constructed
  exact (Except.ok.inj constructed).symm

end RayTracer.Bvh
