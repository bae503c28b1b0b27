import RayTracer.Proofs.Bvh.Levels
import RayTracer.Proofs.Bvh.Tightness
import Mathlib.Order.Bounds.Basic

/-!
# Sizes, counts and levels of a tree

How many triangles a node has under it is decided when its items are planned. Items that
form a leaf are few, and items that are cut are more than always form a leaf, so the sizes of
all nodes follow along the plans (`sized_outline`). Costs do not matter to this: between
the two thresholds they decide for a leaf or for a cut, and either is in order.

A binary tree has one leaf more than it has other nodes. The number of levels that a
construction counts on its tasks is the length of the longest way down from the root to a
leaf, read off the node array (`Descent`, `Outline.isGreatest_descents`).
-/

set_option autoImplicit false

namespace RayTracer.Bvh

/-! ## Ways down -/

/-- The nodes on a way down from a node to a leaf, the two included. -/
inductive Descent {S : Type} (nodes : Array (Node S)) : Nat → List Nat → Prop where
  /-- A leaf is its own way down. -/
  | leaf {index start stop : Nat} {box : Box S}
      (present : nodes[index]? = some ⟨box, .leaf start stop⟩) : Descent nodes index [index]
  /-- A way down from a child continues one from its parent. -/
  | inner {index child : Nat} {path : List Nat} (isChild : IsChild nodes index child)
      (rest : Descent nodes child path) : Descent nodes index (index :: path)

namespace Outline

variable {S : Type}

/-- The number of levels. -/
def levels : Outline S → Nat
  | .leaf _ _ => 1
  | .inner _ _ left right => max left.levels right.levels + 1

theorem length_le_levels {outline : Outline S} {nodes : Array (Node S)}
    (describes : outline.Describes nodes) {path : List Nat}
    (descent : Descent nodes outline.index path) : path.length ≤ outline.levels := by
  induction outline generalizing path with
  | leaf index tip =>
    cases descent with
    | leaf present => exact Nat.le_refl 1
    | inner isChild rest =>
      obtain ⟨box, left, right, present, -⟩ := isChild
      obtain ⟨_, _, _, different, -⟩ := Describes.exists_eq_inner describes present
      cases different
  | inner index box left right ihLeft ihRight =>
    cases descent with
    | leaf present =>
      obtain ⟨_, different⟩ := Describes.exists_eq_leaf describes present
      cases different
    | inner isChild descent =>
      obtain ⟨_, _, _, present, isEnd⟩ := isChild
      obtain ⟨_, _, _, same, rfl, rfl⟩ := Describes.exists_eq_inner describes present
      obtain ⟨-, -, rfl, rfl⟩ := Outline.inner.inj same
      rw [List.length_cons, levels]
      obtain rfl | rfl := isEnd
      · exact Nat.succ_le_succ (le_max_of_le_left (ihLeft describes.2.1 descent))
      · exact Nat.succ_le_succ (le_max_of_le_right (ihRight describes.2.2 descent))

theorem exists_descent {outline : Outline S} {nodes : Array (Node S)}
    (describes : outline.Describes nodes) :
    ∃ path, Descent nodes outline.index path ∧ path.length = outline.levels := by
  induction outline with
  | leaf index tip => exact ⟨[index], .leaf describes, rfl⟩
  | inner index box left right ihLeft ihRight =>
    obtain ⟨root, leftDescribes, rightDescribes⟩ := describes
    obtain ⟨leftPath, leftDescent, leftLength⟩ := ihLeft leftDescribes
    obtain ⟨rightPath, rightDescent, rightLength⟩ := ihRight rightDescribes
    -- The way down goes on through the child with more levels.
    rcases le_total right.levels left.levels with deeper | deeper
    · refine ⟨index :: leftPath, .inner ⟨box, _, _, root, .inl rfl⟩ leftDescent, ?_⟩
      rw [List.length_cons, leftLength, levels, max_eq_left deeper]
    · refine ⟨index :: rightPath, .inner ⟨box, _, _, root, .inr rfl⟩ rightDescent, ?_⟩
      rw [List.length_cons, rightLength, levels, max_eq_right deeper]

/-- **The number of levels is the length of the longest way down to a leaf.** -/
theorem isGreatest_descents {outline : Outline S} {nodes : Array (Node S)}
    (describes : outline.Describes nodes) :
    IsGreatest {length | ∃ path, Descent nodes outline.index path ∧ path.length = length}
      outline.levels := by
  constructor
  · exact exists_descent describes
  · rintro _ ⟨path, descent, rfl⟩
    exact length_le_levels describes descent

/-! ## Numbers of nodes -/

theorem length_indices (outline : Outline S) :
    outline.indices.length + 1 = 2 * outline.leaves.length := by
  induction outline with
  | leaf index tip => rfl
  | inner index box left right ihLeft ihRight =>
    simp only [indices, leaves, List.length_cons, List.length_append]
    omega

theorem length_leaves_pos (outline : Outline S) : 0 < outline.leaves.length := by
  have nodes := outline.length_indices
  omega

/-- There is a leaf at an index of a node array. -/
def leafAt (nodes : Array (Node S)) (index : Nat) : Bool :=
  nodes[index]?.any fun node => node.content.isLeaf

theorem Describes.countP_indices {outline : Outline S} {nodes : Array (Node S)}
    (describes : outline.Describes nodes) :
    outline.indices.countP (leafAt nodes) = outline.leaves.length := by
  induction outline with
  | leaf index tip =>
    have isLeaf : leafAt nodes index = true := by rw [leafAt, describes]; rfl
    rw [indices, List.countP_singleton, if_pos isLeaf]
    rfl
  | inner index box left right ihLeft ihRight =>
    obtain ⟨root, leftDescribes, rightDescribes⟩ := describes
    have isInner : ¬leafAt nodes index = true := by rw [leafAt, root]; exact Bool.false_ne_true
    rw [indices, List.countP_cons_of_neg isInner, List.countP_append, ihLeft leftDescribes,
      ihRight rightDescribes, leaves, List.length_append]

theorem leafCount_eq_countP (tree : Bvh S) :
    leafCount tree = (List.range tree.nodes.size).countP (leafAt tree.nodes) := by
  have read : (List.range tree.nodes.size).map (fun index => tree.nodes[index]?) =
      tree.nodes.toList.map some := by
    refine List.ext_getElem (by simp) fun index _ _ => ?_
    simp
  calc leafCount tree
      = (tree.nodes.toList.map some).countP (Option.any fun node => node.content.isLeaf) := by
        rw [List.countP_map, leafCount, ← Array.countP_toList]
        rfl
    _ = (List.range tree.nodes.size).countP (leafAt tree.nodes) := by
        rw [← read, List.countP_map]
        rfl

/-- The leaves of a tree are those of its outline. -/
theorem OfTree.leafCount_eq {outline : Outline S} {tree : Bvh S} (ofTree : outline.OfTree tree) :
    leafCount tree = outline.leaves.length := by
  rw [leafCount_eq_countP, ← ofTree.indices.countP_eq, ofTree.describes.countP_indices]

/-- A tree has one leaf more than it has other nodes. -/
theorem OfTree.size_nodes {outline : Outline S} {tree : Bvh S} (ofTree : outline.OfTree tree) :
    tree.nodes.size + 1 = 2 * leafCount tree := by
  have nodes := ofTree.indices.length_eq
  rw [List.length_range] at nodes
  rw [ofTree.leafCount_eq, ← nodes, outline.length_indices]

/-! ## Numbers of triangles -/

/-- The triangles in the ranges of the leaves. -/
def triangles (order : Array Nat) (outline : Outline S) : List Nat :=
  outline.leaves.flatMap fun leaf => leaf.triangles order

/-- The number of places in the ranges of the leaves. -/
def places : Outline S → Nat
  | .leaf _ tip => tip.stop - tip.start
  | .inner _ _ left right => left.places + right.places

theorem length_triangles {order : Array Nat} {outline : Outline S}
    (inside : outline.Inside order) : (outline.triangles order).length = outline.places := by
  induction outline with
  | leaf index tip =>
    have within := (inside tip List.mem_cons_self).2
    simp only [triangles, leaves, List.flatMap_cons, List.flatMap_nil, List.append_nil,
      Leaf.triangles, Array.length_toList, Array.size_extract, places]
    rw [Nat.min_eq_left within]
  | inner index box left right ihLeft ihRight =>
    have parts : (inner index box left right).triangles order =
        left.triangles order ++ right.triangles order := List.flatMap_append
    rw [parts, List.length_append, places,
      ihLeft fun leaf member => inside leaf (List.mem_append_left _ member),
      ihRight fun leaf member => inside leaf (List.mem_append_right _ member)]

/-- No leaf has too few or too many triangles, and no other node has as few under it as
always form a leaf. -/
def Sized (least : Nat) : Outline S → Prop
  | .leaf _ tip => least ≤ tip.stop - tip.start ∧ tip.stop - tip.start ≤ maxLeafSize
  | .inner _ _ left right =>
    leafSize < left.places + right.places ∧ left.Sized least ∧ right.Sized least

end Outline

variable {S : Type}

theorem Growth.places_outline (growth : Growth S) (index next start : Nat) :
    (growth.outline index next start).places = growth.items.length := by
  induction growth generalizing index next start with
  | leaf box items => exact Nat.add_sub_cancel_left start items.length
  | inner box first second ihFirst ihSecond =>
    rw [outline, Outline.places, ihFirst, ihSecond, items, List.length_append]

theorem Growth.levels_outline (growth : Growth S) (index next start : Nat) :
    (growth.outline index next start).levels = growth.levels := by
  induction growth generalizing index next start with
  | leaf box items => rfl
  | inner box first second ihFirst ihSecond =>
    rw [outline, Outline.levels, ihFirst, ihSecond, levels]

variable [Scalar S]

theorem length_of_plan_eq_leaf {items placed : List (Item S)}
    (planned : plan items = .leaf placed) :
    placed.length = items.length ∧ items.length ≤ maxLeafSize := by
  refine ⟨(perm_of_plan_eq_leaf planned).length_eq, ?_⟩
  rw [plan_eq] at planned
  split at planned
  · rename_i few
    exact few.trans (by decide)
  · split at planned
    · rename_i moderate
      exact moderate.1
    · cases planned

theorem CutInto.leafSize_lt {items first second : List (Item S)}
    (isCut : CutInto items first second) : leafSize < items.length := by
  obtain ⟨placed, position, planned, -⟩ := isCut
  exact (of_plan_eq_cut planned).1

/-- **The sizes of all nodes are in order.** Only without any items is there a leaf
without triangles. -/
theorem sized_outline {items : List (Item S)} {least : Nat} (few : least ≤ min 1 items.length)
    (index next start : Nat) : ((grow items).outline index next start).Sized least := by
  induction items using plan_induction generalizing index next start with
  | leaf items placed planned =>
    obtain ⟨sameLength, moderate⟩ := length_of_plan_eq_leaf planned
    rw [grow_of_leaf planned, Growth.outline, Outline.Sized, Nat.add_sub_cancel_left, sameLength]
    exact ⟨few.trans (min_le_right 1 _), moderate⟩
  | cut items first second isCut ihFirst ihSecond =>
    obtain ⟨firstPositive, secondPositive, total⟩ := isCut.length
    have many := isCut.leafSize_lt
    rw [grow_of_cut isCut, Growth.outline, Outline.Sized, Growth.places_outline,
      Growth.places_outline, length_items_grow, length_items_grow, total]
    exact ⟨many, ihFirst (by omega) _ _ _, ihSecond (by omega) _ _ _⟩

/-! ## The tree -/

section Tree

variable {positions : Array (Vec3 S)} {faces : Array Face}

/-- The part of the outline under a node, with the sizes of its nodes. -/
theorem exists_sized_part {index : Nat} {node : Node S}
    (present : (build positions faces).nodes[index]? = some node) :
    ∃ part : Outline S, part.index = index ∧ part.Describes (build positions faces).nodes ∧
      part.Inside (build positions faces).order ∧ part.Sized (min 1 faces.size) := by
  have ofTree := ofTree_outline positions faces
  have few : min 1 faces.size ≤ min 1 (itemsOf positions faces).length := by rw [length_itemsOf]
  have sized := sized_outline few 0 1 0
  have allocated := (Array.getElem?_eq_some_iff.mp present).1
  refine Outline.exists_part ?_ ⟨ofTree.describes, ofTree.inside, sized⟩
    (ofTree.mem_indices.mpr allocated)
  rintro root box left right ⟨describes, inside, sized⟩
  exact ⟨⟨describes.2.1, fun leaf member => inside leaf (List.mem_append_left _ member),
      sized.2.1⟩,
    describes.2.2, fun leaf member => inside leaf (List.mem_append_right _ member), sized.2.2⟩

/-- The size of a leaf. -/
theorem size_of_leaf {index start stop : Nat} {box : Box S}
    (present : (build positions faces).nodes[index]? = some ⟨box, .leaf start stop⟩) :
    start ≤ stop ∧ stop ≤ (build positions faces).order.size ∧ stop - start ≤ maxLeafSize ∧
      (faces.size ≠ 0 → 1 ≤ stop - start) := by
  obtain ⟨part, rfl, describes, inside, sized⟩ := exists_sized_part present
  obtain ⟨root, rfl⟩ := describes.exists_eq_leaf present
  obtain ⟨ordered, within⟩ := inside _ List.mem_cons_self
  refine ⟨ordered, within, sized.2, fun nonempty => ?_⟩
  exact (Nat.min_eq_left (Nat.one_le_iff_ne_zero.mpr nonempty)).symm.trans_le sized.1

/-- The number of triangles under a node that is not a leaf. -/
theorem size_of_inner {index left right : Nat} {box : Box S}
    (present : (build positions faces).nodes[index]? = some ⟨box, .inner left right⟩) :
    ∃ part : Outline S, part.index = index ∧ part.Describes (build positions faces).nodes ∧
      leafSize < (part.triangles (build positions faces).order).length := by
  obtain ⟨part, rfl, describes, inside, sized⟩ := exists_sized_part present
  refine ⟨part, rfl, describes, ?_⟩
  rw [Outline.length_triangles inside]
  obtain ⟨root, first, second, rfl, -⟩ := describes.exists_eq_inner present
  exact sized.1

end Tree

/-- **The sizes of the nodes of a tree are in order, and its measures are exact.** A leaf
holds at most sixteen triangles, and at least one unless there are none at all. The part of
the tree under any other node holds more than four. There is one leaf more than there are
other nodes, and the depth is the number of nodes on the longest way from the root to a
leaf. -/
theorem measures_build (positions : Array (Vec3 S)) (faces : Array Face) :
    let tree := build positions faces
    (∀ (index start stop : Nat) (box : Box S),
        tree.nodes[index]? = some ⟨box, .leaf start stop⟩ →
      start ≤ stop ∧ stop ≤ tree.order.size ∧ stop - start ≤ maxLeafSize ∧
        (faces.size ≠ 0 → 1 ≤ stop - start)) ∧
    (∀ (index left right : Nat) (box : Box S),
        tree.nodes[index]? = some ⟨box, .inner left right⟩ →
      ∃ part : Outline S, part.index = index ∧ part.Describes tree.nodes ∧
        leafSize < (part.triangles tree.order).length) ∧
    0 < leafCount tree ∧ tree.nodes.size = 2 * leafCount tree - 1 ∧
    IsGreatest {length | ∃ path, Descent tree.nodes 0 path ∧ path.length = length} tree.depth := by
  intro tree
  have ofTree := ofTree_outline positions faces
  have count := ofTree.size_nodes
  refine ⟨fun _ _ _ _ => size_of_leaf, fun _ _ _ _ => size_of_inner, ?_, ?_, ?_⟩
  · rw [ofTree.leafCount_eq]
    exact Outline.length_leaves_pos _
  · exact Nat.eq_sub_of_add_eq count
  · have greatest := Outline.isGreatest_descents ofTree.describes
    rw [ofTree.root, Growth.levels_outline, ← depth_build] at greatest
    exact greatest

end RayTracer.Bvh
