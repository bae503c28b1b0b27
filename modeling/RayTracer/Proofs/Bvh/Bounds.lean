import RayTracer.Proofs.Box.Containment
import RayTracer.Proofs.Bvh.Partition

/-!
# The boxes of a tree

In exact arithmetic the padded box of a face with finite vertices is sound, and
so are the boxes of all nodes of a tree. A node's box lies around the boxes of
its children (`Outline.OfTree.nested`), and the box of a leaf lies around the
boxes of the faces in its range (`Outline.OfTree.faceBox_within`). Vertex
indices out of range do no harm: a face without vertices has the empty box,
which lies within every other.
-/

set_option autoImplicit false

namespace RayTracer.Bvh

open Exact

/-! ## What the leaves hold -/

section Leaves

variable {S : Type} [Scalar S]

theorem boundsOf_eq_unionAll (items : List (Item S)) :
    boundsOf items = Box.unionAll (items.map Item.box) := by
  rw [Box.unionAll, List.foldl_map]
  rfl

theorem mem_itemsOf {positions : Array (Vec3 S)} {faces : Array Face} {item : Item S} :
    item ∈ itemsOf positions faces ↔
      ∃ index face, faces[index]? = some face ∧ item = Item.ofFace positions index face := by
  simp only [itemsOf, List.mem_mapIdx, Array.length_toList, Array.getElem_toList,
    Array.getElem?_eq_some_iff]
  constructor
  · rintro ⟨index, bound, rfl⟩
    exact ⟨index, faces[index], ⟨bound, rfl⟩, rfl⟩
  · rintro ⟨index, face, ⟨bound, rfl⟩, rfl⟩
    exact ⟨index, bound, rfl⟩

theorem box_outline_grow (items : List (Item S)) (index next start : Nat) :
    ((grow items).outline index next start).box = boundsOf items := by
  cases planned : plan items with
  | leaf placed => rw [grow_of_leaf planned]; rfl
  | cut placed position => rw [grow_of_cut ⟨_, _, planned, rfl, rfl⟩]; rfl

/-- A leaf has the box around some of the items that a tree grew from, and the
triangles of these items, wherever the tree is written. -/
theorem exists_items_of_mem_leaves (items : List (Item S)) {index next start : Nat}
    (before after : List Nat) (placed : before.length = start) {leaf : Leaf S}
    (member : leaf ∈ ((grow items).outline index next start).leaves) :
    ∃ kept, kept ⊆ items ∧ leaf.box = boundsOf kept ∧
      (leaf.triangles (before ++ (grow items).items.map Item.index ++ after).toArray).Perm
        (kept.map Item.index) := by
  induction items using plan_induction generalizing index next start before after with
  | leaf items stored planned =>
    rw [grow_of_leaf planned] at member ⊢
    obtain rfl := List.mem_singleton.mp member
    have range := triangles_between (boundsOf items) before (stored.map Item.index) after
    rw [List.length_map, placed] at range
    refine ⟨items, List.Subset.refl items, rfl, ?_⟩
    rw [Growth.items, range]
    exact (perm_of_plan_eq_leaf planned).map Item.index
  | cut items first second isCut ihFirst ihSecond =>
    rw [grow_of_cut isCut] at member ⊢
    have parts : first ++ second ⊆ items := isCut.perm.subset
    simp only [Growth.items, List.map_append]
    obtain member | member := List.mem_append.mp member
    · obtain ⟨kept, subset, box, triangles⟩ :=
        ihFirst before ((grow second).items.map Item.index ++ after) placed member
      refine ⟨kept, fun item inKept => parts (List.mem_append_left _ (subset inKept)), box, ?_⟩
      simpa only [List.append_assoc] using triangles
    · have moved : (before ++ (grow first).items.map Item.index).length =
          start + (grow first).items.length := by
        rw [List.length_append, List.length_map, placed]
      obtain ⟨kept, subset, box, triangles⟩ := ihSecond _ after moved member
      refine ⟨kept, fun item inKept => parts (List.mem_append_right _ (subset inKept)), box, ?_⟩
      simpa only [List.append_assoc] using triangles

/-- A leaf of a tree has the box around some items and the triangles of these. -/
theorem Outline.OfTree.exists_items {positions : Array (Vec3 S)} {faces : Array Face}
    {outline : Outline S} (ofTree : outline.OfTree (build positions faces)) {leaf : Leaf S}
    (member : leaf ∈ outline.leaves) :
    ∃ kept, kept ⊆ itemsOf positions faces ∧ leaf.box = boundsOf kept ∧
      (leaf.triangles (build positions faces).order).Perm (kept.map Item.index) := by
  rw [ofTree.unique (ofTree_outline positions faces)] at member
  have held := exists_items_of_mem_leaves _ [] [] rfl member
  rwa [List.nil_append, List.append_nil, ← order_build] at held

/-- Every triangle is in the range of some leaf. -/
theorem Outline.OfTree.exists_leaf {positions : Array (Vec3 S)} {faces : Array Face}
    {outline : Outline S} (ofTree : outline.OfTree (build positions faces)) {triangle : Nat}
    (inRange : triangle < faces.size) :
    ∃ leaf ∈ outline.leaves, triangle ∈ leaf.triangles (build positions faces).order := by
  have counted := ofTree.countP_leaves inRange
  obtain ⟨leaf, member, holds⟩ := List.countP_pos_iff.mp (counted.symm ▸ Nat.one_pos)
  exact ⟨leaf, member, of_decide_eq_true holds⟩

/-- Whatever is in the range of a leaf is a triangle. -/
theorem Outline.OfTree.lt_size_of_mem {positions : Array (Vec3 S)} {faces : Array Face}
    {outline : Outline S} (ofTree : outline.OfTree (build positions faces)) {leaf : Leaf S}
    (member : leaf ∈ outline.leaves) {triangle : Nat}
    (holds : triangle ∈ leaf.triangles (build positions faces).order) :
    triangle < faces.size := by
  have whole := flatMap_triangles_of_tiles ofTree.tiles (build positions faces).order
  rw [Array.extract_size] at whole
  have inOrder : triangle ∈ (build positions faces).order.toList :=
    whole ▸ List.mem_flatMap.mpr ⟨leaf, member, holds⟩
  exact List.mem_range.mp ((perm_order_build positions faces).subset inOrder)

/-- No triangle is in the ranges of two leaves. -/
theorem Outline.OfTree.leaf_unique {positions : Array (Vec3 S)} {faces : Array Face}
    {outline : Outline S} (ofTree : outline.OfTree (build positions faces)) {first second : Leaf S}
    (firstMember : first ∈ outline.leaves) (secondMember : second ∈ outline.leaves)
    {triangle : Nat} (inFirst : triangle ∈ first.triangles (build positions faces).order)
    (inSecond : triangle ∈ second.triangles (build positions faces).order) : first = second := by
  have whole := flatMap_triangles_of_tiles ofTree.tiles (build positions faces).order
  rw [Array.extract_size] at whole
  have nodup := nodup_order_build positions faces
  rw [← whole] at nodup
  have apart := (List.nodup_flatMap.mp nodup).2
  have : Std.Symm (Function.onFun List.Disjoint fun leaf : Leaf S =>
      leaf.triangles (build positions faces).order) := ⟨fun _ _ disjoint => disjoint.symm⟩
  by_contra different
  exact apart.forall firstMember secondMember different inFirst inSecond

end Leaves

/-! ## Sound boxes -/

theorem boxMargin_eq_real : (boxMargin : Exact) = real 1e-6 := rfl

section Faces

variable {positions : Array (Vec3 Exact)} (finite : FiniteVertices positions)
include finite

theorem finite_of_mem_vertices {face : Face} {point : Vec3 Exact}
    (member : point ∈ face.toList.filterMap fun index => positions[index]?) : point.IsFinite := by
  obtain ⟨index, -, present⟩ := List.mem_filterMap.mp member
  exact finite point (Array.mem_of_getElem? present)

theorem sound_faceBox (face : Face) : (faceBox positions face).Sound := by
  rw [faceBox, boxMargin_eq_real]
  exact (Box.sound_ofPoints fun point => finite_of_mem_vertices finite).padded (by norm_num)

theorem sound_itemsOf {faces : Array Face} :
    ∀ box ∈ (itemsOf positions faces).map Item.box, box.Sound := by
  intro box member
  obtain ⟨item, isItem, rfl⟩ := List.mem_map.mp member
  obtain ⟨index, face, -, rfl⟩ := mem_itemsOf.mp isItem
  exact sound_faceBox finite face

end Faces

/-! ## Nested boxes -/

namespace Outline

/-- Every box is sound and lies around the boxes of the children of its node. -/
def Nested : Outline Exact → Prop
  | .leaf _ tip => tip.box.Sound
  | .inner _ box left right =>
    box.Sound ∧ left.box.Within box ∧ right.box.Within box ∧ left.Nested ∧ right.Nested

theorem Nested.sound {outline : Outline Exact} (nested : outline.Nested) : outline.box.Sound := by
  cases outline with
  | leaf index tip => exact nested
  | inner index box left right => exact nested.1

/-- The box of a leaf lies within the boxes of all nodes above it. -/
theorem Nested.leaf_within {outline : Outline Exact} (nested : outline.Nested)
    {leaf : Leaf Exact} (member : leaf ∈ outline.leaves) :
    leaf.box.Sound ∧ leaf.box.Within outline.box := by
  induction outline with
  | leaf index tip =>
    obtain rfl := List.mem_singleton.mp member
    exact ⟨nested, nested.sound.within_refl⟩
  | inner index box left right ihLeft ihRight =>
    obtain ⟨-, leftWithin, rightWithin, leftNested, rightNested⟩ := nested
    obtain member | member := List.mem_append.mp member
    · obtain ⟨sound, within⟩ := ihLeft leftNested member
      exact ⟨sound, within.trans leftWithin⟩
    · obtain ⟨sound, within⟩ := ihRight rightNested member
      exact ⟨sound, within.trans rightWithin⟩

end Outline

/-- The boxes of a tree that grows from sound boxes are nested. -/
theorem nested_outline {items : List (Item Exact)}
    (sound : ∀ box ∈ items.map Item.box, box.Sound) (index next start : Nat) :
    ((grow items).outline index next start).Nested := by
  have boundsSound : (boundsOf items).Sound :=
    boundsOf_eq_unionAll items ▸ Box.sound_unionAll sound
  induction items using plan_induction generalizing index next start with
  | leaf items placed planned =>
    rw [grow_of_leaf planned]
    exact boundsSound
  | cut items first second isCut ihFirst ihSecond =>
    rw [grow_of_cut isCut]
    have parts := isCut.perm.subset
    have firstSubset : first.map Item.box ⊆ items.map Item.box :=
      List.map_subset _ fun item member => parts (List.mem_append_left _ member)
    have secondSubset : second.map Item.box ⊆ items.map Item.box :=
      List.map_subset _ fun item member => parts (List.mem_append_right _ member)
    have within {part : List (Item Exact)} (subset : part.map Item.box ⊆ items.map Item.box)
        (place child free : Nat) :
        ((grow part).outline place child free).box.Within (boundsOf items) := by
      rw [box_outline_grow, boundsOf_eq_unionAll, boundsOf_eq_unionAll]
      exact Box.unionAll_within_unionAll subset sound
    have firstSound : ∀ box ∈ first.map Item.box, box.Sound :=
      fun box member => sound box (firstSubset member)
    have secondSound : ∀ box ∈ second.map Item.box, box.Sound :=
      fun box member => sound box (secondSubset member)
    exact ⟨boundsSound, within firstSubset _ _ _, within secondSubset _ _ _,
      ihFirst firstSound _ _ _ (boundsOf_eq_unionAll first ▸ Box.sound_unionAll firstSound),
      ihSecond secondSound _ _ _ (boundsOf_eq_unionAll second ▸ Box.sound_unionAll secondSound)⟩

namespace Outline.OfTree

variable {positions : Array (Vec3 Exact)} {faces : Array Face} {outline : Outline Exact}

/-- **The boxes of a tree over finite vertices are nested.** -/
theorem nested (ofTree : outline.OfTree (build positions faces))
    (finite : FiniteVertices positions) : outline.Nested := by
  rw [ofTree.unique (ofTree_outline positions faces)]
  exact nested_outline (sound_itemsOf finite) 0 1 0

/-- The box of a leaf lies around the boxes of its faces. -/
theorem faceBox_within (ofTree : outline.OfTree (build positions faces))
    (finite : FiniteVertices positions) {leaf : Leaf Exact} (member : leaf ∈ outline.leaves)
    {triangle : Nat} (holds : triangle ∈ leaf.triangles (build positions faces).order)
    {face : Face} (present : faces[triangle]? = some face) :
    (faceBox positions face).Within leaf.box := by
  obtain ⟨kept, subset, isBounds, triangles⟩ := ofTree.exists_items member
  obtain ⟨item, inKept, isIndex⟩ := List.mem_map.mp (triangles.mem_iff.mp holds)
  obtain ⟨index, other, otherPresent, rfl⟩ := mem_itemsOf.mp (subset inKept)
  obtain rfl : index = triangle := isIndex
  obtain rfl : face = other := Option.some.inj (present.symm.trans otherPresent)
  rw [isBounds, boundsOf_eq_unionAll]
  refine Box.within_unionAll ?_ (List.mem_map_of_mem inKept)
  intro box isBox
  exact sound_itemsOf finite box (List.map_subset _ subset isBox)

end Outline.OfTree

end RayTracer.Bvh
