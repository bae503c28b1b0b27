import RayTracer.Proofs.Bvh.Conservative

/-!
# The boxes of a tree are tight

In exact arithmetic the box of every node of a tree is the least box around what
is under the node. The box of a leaf is the union of the padded boxes of the
faces in its range, and the box of an inner node is the union of the boxes of its
two children. So the box of a node has room for the margin around every vertex
of every face under it.

A construction computes the box of a node before the items of the node are
sorted and cut, again and again, on the way to the leaves. That does not matter:
the items stay the same, and the union of sound boxes does not depend on their
order.
-/

set_option autoImplicit false

namespace RayTracer.Bvh

open Exact

/-! ## Parts of an outline -/

namespace Outline

variable {S : Type}

/-- A property that passes from nodes to their children holds of the part of an
outline under each of its nodes. -/
theorem exists_part {property : Outline S → Prop}
    (hereditary : ∀ {index : Nat} {box : Box S} {left right : Outline S},
      property (.inner index box left right) → property left ∧ property right)
    {outline : Outline S} (holds : property outline) {index : Nat}
    (member : index ∈ outline.indices) :
    ∃ part : Outline S, part.index = index ∧ property part := by
  induction outline with
  | leaf root tip => exact ⟨.leaf root tip, (List.mem_singleton.mp member).symm, holds⟩
  | inner root box left right ihLeft ihRight =>
    obtain rfl | member := List.mem_cons.mp member
    · exact ⟨.inner index box left right, rfl, holds⟩
    · obtain ⟨leftHolds, rightHolds⟩ := hereditary holds
      exact (List.mem_append.mp member).elim (ihLeft leftHolds) (ihRight rightHolds)

/-- The node at the root of an outline has the box of the outline. -/
theorem Describes.exists_root {outline : Outline S} {nodes : Array (Node S)}
    (describes : outline.Describes nodes) :
    ∃ content, nodes[outline.index]? = some ⟨outline.box, content⟩ := by
  cases outline with
  | leaf index tip => exact ⟨_, describes⟩
  | inner index box left right => exact ⟨_, describes.1⟩

variable [Scalar S]

/-- The box of every inner node is the union of the boxes of its children. -/
def Joined : Outline S → Prop
  | .leaf _ _ => True
  | .inner _ box left right => box = left.box.union right.box ∧ left.Joined ∧ right.Joined

end Outline

theorem boundsOf_of_cut {items first second : List (Item Exact)}
    (sound : ∀ box ∈ items.map Item.box, box.Sound) (isCut : CutInto items first second) :
    boundsOf items = (boundsOf first).union (boundsOf second) := by
  have parts := isCut.perm.map Item.box
  rw [List.map_append] at parts
  simp only [boundsOf_eq_unionAll]
  rw [← Box.unionAll_append, Box.unionAll_perm parts.symm]
  · exact fun box member => sound box (parts.subset (List.mem_append_left _ member))
  · exact fun box member => sound box (parts.subset (List.mem_append_right _ member))

theorem joined_outline {items : List (Item Exact)}
    (sound : ∀ box ∈ items.map Item.box, box.Sound) (index next start : Nat) :
    ((grow items).outline index next start).Joined := by
  induction items using plan_induction generalizing index next start with
  | leaf items placed planned =>
    rw [grow_of_leaf planned]
    trivial
  | cut items first second isCut ihFirst ihSecond =>
    have parts := isCut.perm.map Item.box
    rw [List.map_append] at parts
    rw [grow_of_cut isCut]
    refine ⟨?_, ihFirst ?_ _ _ _, ihSecond ?_ _ _ _⟩
    -- The box of the node is that of the items before they were sorted and cut.
    · simp only [box_outline_grow]
      exact boundsOf_of_cut sound isCut
    · exact fun box member => sound box (parts.subset (List.mem_append_left _ member))
    · exact fun box member => sound box (parts.subset (List.mem_append_right _ member))

/-! ## Leaves -/

/-- The faces of some triangles, in order, none of which is missing. -/
def AreFaces (faces : Array Face) (triangles : List Nat) (held : List Face) : Prop :=
  triangles.map (fun triangle => faces[triangle]?) = held.map some

section Nodes

variable {positions : Array (Vec3 Exact)} (finite : FiniteVertices positions) {faces : Array Face}
  {outline : Outline Exact} (ofTree : outline.OfTree (build positions faces))
include finite ofTree

omit finite in
/-- The box of a leaf is the union of the padded boxes of the faces in its range. -/
theorem Outline.OfTree.box_leaf {leaf : Leaf Exact} (member : leaf ∈ outline.leaves) :
    ∃ held, AreFaces faces (leaf.triangles (build positions faces).order) held ∧
      leaf.box = Box.unionAll (held.map (faceBox positions)) := by
  obtain ⟨kept, subset, isBounds, triangles⟩ := ofTree.exists_items member
  let faceOf (triangle : Nat) : Face := faces[triangle]?.getD default
  have item {item : Item Exact} (inKept : item ∈ kept) :
      faces[item.index]? = some (faceOf item.index) ∧
        item.box = faceBox positions (faceOf item.index) := by
    obtain ⟨index, face, present, rfl⟩ := mem_itemsOf.mp (subset inKept)
    have same : faceOf index = face := by simp only [faceOf, present, Option.getD_some]
    exact ⟨present.trans (congrArg some same.symm), congrArg (faceBox positions) same.symm⟩
  refine ⟨(leaf.triangles (build positions faces).order).map faceOf, ?_, ?_⟩
  · rw [AreFaces, List.map_map]
    refine List.map_congr_left fun triangle holds => ?_
    obtain ⟨_, inKept, rfl⟩ := List.mem_map.mp (triangles.mem_iff.mp holds)
    exact (item inKept).1
  -- The range lists the items of the leaf in another order than its box was taken in.
  · have boxes : kept.map Item.box =
        (kept.map Item.index).map fun triangle => faceBox positions (faceOf triangle) := by
      rw [List.map_map]
      exact List.map_congr_left fun _ inKept => (item inKept).2
    rw [isBounds, boundsOf_eq_unionAll, List.map_map, boxes]
    exact Box.unionAll_perm (triangles.symm.map _)

/-! ## Nodes -/

/-- The part of the outline under a node, with what is known of the boxes in it. -/
theorem Outline.OfTree.exists_part_at {index : Nat} {node : Node Exact}
    (present : (build positions faces).nodes[index]? = some node) :
    ∃ part : Outline Exact, part.index = index ∧ part.Describes (build positions faces).nodes ∧
      part.Nested ∧ part.Joined ∧ part.leaves ⊆ outline.leaves := by
  have joined : outline.Joined := by
    rw [ofTree.unique (ofTree_outline positions faces)]
    exact joined_outline (sound_itemsOf finite) 0 1 0
  have allocated := (Array.getElem?_eq_some_iff.mp present).1
  refine exists_part ?_
    ⟨ofTree.describes, ofTree.nested finite, joined, List.Subset.refl outline.leaves⟩
    (ofTree.mem_indices.mpr allocated)
  rintro root box left right ⟨describes, nested, joined, subset⟩
  exact ⟨⟨describes.2.1, nested.2.2.2.1, joined.2.1,
      fun leaf member => subset (List.mem_append_left _ member)⟩,
    describes.2.2, nested.2.2.2.2, joined.2.2,
      fun leaf member => subset (List.mem_append_right _ member)⟩

/-- The node of a leaf is that of a leaf of the outline. -/
theorem Outline.OfTree.mem_leaves {index start stop : Nat} {box : Box Exact}
    (present : (build positions faces).nodes[index]? = some ⟨box, .leaf start stop⟩) :
    ⟨box, start, stop⟩ ∈ outline.leaves := by
  obtain ⟨part, rfl, describes, -, -, subset⟩ := ofTree.exists_part_at finite present
  obtain ⟨root, rfl⟩ := describes.exists_eq_leaf present
  exact subset List.mem_cons_self

/-- The box of an inner node is the union of the boxes of its children. -/
theorem Outline.OfTree.box_inner {index left right : Nat} {box : Box Exact}
    (present : (build positions faces).nodes[index]? = some ⟨box, .inner left right⟩) :
    ∃ first second : Node Exact, (build positions faces).nodes[left]? = some first ∧
      (build positions faces).nodes[right]? = some second ∧ first.box.Within box ∧
      second.box.Within box ∧ box = first.box.union second.box := by
  obtain ⟨part, rfl, describes, nested, joined, -⟩ := ofTree.exists_part_at finite present
  obtain ⟨root, first, second, rfl, rfl, rfl⟩ := describes.exists_eq_inner present
  obtain ⟨_, firstPresent⟩ := describes.2.1.exists_root
  obtain ⟨_, secondPresent⟩ := describes.2.2.exists_root
  exact ⟨_, _, firstPresent, secondPresent, nested.2.1, nested.2.2.1, joined.1⟩

theorem Outline.OfTree.sound_box {index : Nat} {node : Node Exact}
    (present : (build positions faces).nodes[index]? = some node) : node.box.Sound := by
  obtain ⟨part, rfl, describes, nested, -⟩ := ofTree.exists_part_at finite present
  obtain ⟨_, root⟩ := describes.exists_root
  obtain rfl := Option.some.inj (root.symm.trans present)
  exact nested.sound

/-- The box of a child lies within that of its parent. -/
theorem Outline.OfTree.within_of_isChild {parent child : Nat} {upper lower : Node Exact}
    (isChild : IsChild (build positions faces).nodes parent child)
    (parentPresent : (build positions faces).nodes[parent]? = some upper)
    (childPresent : (build positions faces).nodes[child]? = some lower) :
    lower.box.Within upper.box := by
  obtain ⟨box, left, right, present, isEnd⟩ := isChild
  obtain rfl := Option.some.inj (present.symm.trans parentPresent)
  obtain ⟨first, second, firstPresent, secondPresent, firstWithin, secondWithin, -⟩ :=
    ofTree.box_inner finite present
  obtain rfl | rfl := isEnd
  · exact Option.some.inj (firstPresent.symm.trans childPresent) ▸ firstWithin
  · exact Option.some.inj (secondPresent.symm.trans childPresent) ▸ secondWithin

/-- The box of a node lies around the boxes of all nodes under it. -/
theorem Outline.OfTree.within_of_descends {above below : Nat} {upper lower : Node Exact}
    (descends : Relation.ReflTransGen (IsChild (build positions faces).nodes) above below)
    (abovePresent : (build positions faces).nodes[above]? = some upper)
    (belowPresent : (build positions faces).nodes[below]? = some lower) :
    lower.box.Within upper.box := by
  -- The induction climbs from the lower node, so the upper one varies.
  induction descends using Relation.ReflTransGen.head_induction_on generalizing upper with
  | refl =>
    obtain rfl := Option.some.inj (abovePresent.symm.trans belowPresent)
    exact (ofTree.sound_box finite abovePresent).within_refl
  | head isChild _ ih =>
    have allocated := (ofTree.lt_of_isChild isChild).2
    have childPresent := Array.getElem?_eq_getElem allocated
    have childWithin := ofTree.within_of_isChild finite isChild abovePresent childPresent
    exact (ih childPresent).trans childWithin

end Nodes

/-! ## Margins -/

/-- A box has room for the margin around triangles on every side of a point. -/
def HasMargin (box : Box Exact) (point : Vec3 Exact) : Prop :=
  ∀ axis : Axis, box.lower.get axis + boxMargin ≤ point.get axis ∧
    point.get axis + boxMargin ≤ box.upper.get axis

/-- A box around a point moved by the margin, down and up, has room for it. -/
theorem HasMargin.of_around {box : Box Exact} {point : Vec3 ℝ}
    (below : box.Around (point.map (· - 1e-6))) (above : box.Around (point.map (· + 1e-6))) :
    HasMargin box (.ofReal point) := by
  intro axis
  have lower := (below axis).1
  have upper := (above axis).2
  rw [boxMargin_eq_real, Vec3.get_ofReal, add_real_le_real_iff, real_add_real]
  cases axis <;> exact ⟨lower, upper⟩

/-- The padded box of a face has room for the margin around its vertices. -/
theorem around_faceBox_of_mem {positions : Array (Vec3 Exact)} (finite : FiniteVertices positions)
    {face : Face} {corner : Nat} (isCorner : corner ∈ face.toList) {vertex : Vec3 ℝ}
    (present : positions[corner]? = some (.ofReal vertex)) {point : Vec3 ℝ}
    (close : ∀ axis : Axis, |point.get axis - vertex.get axis| ≤ 1e-6) :
    (faceBox positions face).Around point := by
  have finitePoints : ∀ point ∈ face.toList.filterMap fun index => positions[index]?,
      point.IsFinite := fun _ => finite_of_mem_vertices finite
  have member : Vec3.ofReal vertex ∈ face.toList.filterMap fun index => positions[index]? :=
    List.mem_filterMap.mpr ⟨corner, isCorner, present⟩
  rw [faceBox, boxMargin_eq_real]
  exact Box.around_padded (Box.sound_ofPoints finitePoints)
    (Box.around_ofPoints finitePoints member) close

/-! ## The tree -/

/-- A triangle is in the range of a leaf at or under a node. -/
def Covers (tree : Bvh Exact) (index triangle : Nat) : Prop :=
  ∃ leaf box start stop, Relation.ReflTransGen (IsChild tree.nodes) index leaf ∧
    tree.nodes[leaf]? = some ⟨box, .leaf start stop⟩ ∧
    triangle ∈ (tree.order.extract start stop).toList

/-- **The boxes of a tree are tight and contain everything under their nodes.**
The box of a leaf is the union of the padded boxes of the faces in its range, the
box of an inner node is the union of the boxes of its children, and every node's
box has room for the margin around every vertex, of those in range, of every
triangle under the node. -/
theorem tight_boxes_build {positions : Array (Vec3 Exact)} (finite : FiniteVertices positions)
    (faces : Array Face) :
    let tree := build positions faces
    (∀ (index start stop : Nat) (box : Box Exact),
        tree.nodes[index]? = some ⟨box, .leaf start stop⟩ →
      start ≤ stop ∧ stop ≤ tree.order.size ∧
      ∃ held, AreFaces faces (tree.order.extract start stop).toList held ∧
        box = Box.unionAll (held.map (faceBox positions))) ∧
    (∀ (index left right : Nat) (box : Box Exact),
        tree.nodes[index]? = some ⟨box, .inner left right⟩ →
      ∃ first second : Node Exact, tree.nodes[left]? = some first ∧
        tree.nodes[right]? = some second ∧ box = first.box.union second.box) ∧
    ∀ (index triangle : Nat) (node : Node Exact) (face : Face), tree.nodes[index]? = some node →
      Covers tree index triangle → faces[triangle]? = some face →
      ∀ corner ∈ face.toList, ∀ vertex, positions[corner]? = some vertex →
        HasMargin node.box vertex := by
  intro tree
  have ofTree := ofTree_outline positions faces
  refine ⟨?_, ?_, ?_⟩
  · intro index start stop box present
    have member := ofTree.mem_leaves finite present
    obtain ⟨ordered, inside⟩ := stop_le_of_tiles ofTree.tiles member
    exact ⟨ordered, inside, ofTree.box_leaf member⟩
  · intro index left right box present
    obtain ⟨first, second, firstPresent, secondPresent, -, -, joined⟩ :=
      ofTree.box_inner finite present
    exact ⟨first, second, firstPresent, secondPresent, joined⟩
  · rintro index triangle node face present ⟨leaf, box, start, stop, descends, isLeaf, holds⟩
      isFace corner isCorner vertex isVertex
    have member := ofTree.mem_leaves finite isLeaf
    -- From the face to its leaf, and from the leaf up to the node.
    have inNode : (faceBox positions face).Within node.box :=
      (ofTree.faceBox_within finite member holds isFace).trans
        (ofTree.within_of_descends finite descends present isLeaf)
    obtain ⟨components, rfl⟩ := finite vertex (Array.mem_of_getElem? isVertex)
    have around {point : Vec3 ℝ}
        (close : ∀ axis : Axis, |point.get axis - components.get axis| ≤ 1e-6) :
        node.box.Around point :=
      (around_faceBox_of_mem finite isCorner isVertex close).trans inNode
    refine HasMargin.of_around (around fun axis => ?_) (around fun axis => ?_)
    · cases axis <;> norm_num [Vec3.get, Vec3.map]
    · cases axis <;> norm_num [Vec3.get, Vec3.map]

/-- The box of the only leaf of a distant triangle has room around a corner. -/
theorem tight_boxes_build_distantTriangle :
    let tree := build distantTriangle.positions distantTriangle.faces
    FiniteVertices distantTriangle.positions ∧ ∃ node : Node Exact, tree.nodes[0]? = some node ∧
      Covers tree 0 0 ∧ HasMargin node.box (.ofReal distantCorners.a) := by
  intro tree
  have isLeaf := ofTree_distantTriangle.describes
  have order : tree.order = #[0] := by
    have whole := perm_order_build distantTriangle.positions distantTriangle.faces
    exact Array.ext' (List.perm_singleton.mp whole)
  have covers : Covers tree 0 0 :=
    ⟨0, _, 0, 1, .refl, isLeaf, by simp [order]⟩
  obtain ⟨-, -, margin⟩ := tight_boxes_build finite_distantTriangle distantTriangle.faces
  refine ⟨finite_distantTriangle, _, isLeaf, covers, ?_⟩
  exact margin 0 0 _ ⟨0, 1, 2⟩ isLeaf covers rfl 0 (by simp [Corners.toList]) _
    (by simp [distantTriangle, Mesh.ofParts])

end RayTracer.Bvh
