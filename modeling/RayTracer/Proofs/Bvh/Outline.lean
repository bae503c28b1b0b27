import RayTracer.Proofs.Bvh.Growth
import Mathlib.Data.List.Nodup

/-!
# The tree in a node array

An outline is the binary tree that a node array stores: every node of it has an
index, and the array has its content there (`Outline.Describes`). The leaves of
an outline from left to right own ranges of the triangles in leaf order.

The outline of a tree of boxes starts at the first node, uses every index once,
puts parents before their children, and has leaves whose ranges follow each
other without gaps from the first triangle to the last (`Outline.OfTree`). A
node array has one outline only (`Outline.Describes.unique`), and every tree
that a construction writes has one (`ofTree_outline`).
-/

set_option autoImplicit false

namespace RayTracer.Bvh

/-- A leaf: its box and the range of its triangles. -/
structure Leaf (S : Type) where
  /-- The box of the leaf. -/
  box : Box S
  /-- Where the range of the triangles starts. -/
  start : Nat
  /-- Where the range of the triangles ends, itself not included. -/
  stop : Nat

/-- A binary tree of nodes with their indices in a node array. -/
inductive Outline (S : Type) where
  /-- A leaf. -/
  | leaf (index : Nat) (tip : Leaf S)
  /-- A node with two children. -/
  | inner (index : Nat) (box : Box S) (left right : Outline S)

variable {S : Type}

/-- The triangles of a leaf. -/
def Leaf.triangles (leaf : Leaf S) (order : Array Nat) : List Nat :=
  (order.extract leaf.start leaf.stop).toList

/-- The ranges of leaves follow each other from one place to another. -/
def Tiles : Nat → List (Leaf S) → Nat → Prop
  | start, [], stop => start = stop
  | start, leaf :: rest, stop => leaf.start = start ∧ start ≤ leaf.stop ∧ Tiles leaf.stop rest stop

/-- One node of an array is a child of another. -/
def IsChild (nodes : Array (Node S)) (parent child : Nat) : Prop :=
  ∃ box left right, nodes[parent]? = some ⟨box, .inner left right⟩ ∧
    (child = left ∨ child = right)

namespace Outline

/-- The index of the root. -/
def index : Outline S → Nat
  | .leaf index _ => index
  | .inner index _ _ _ => index

/-- The box of the root. -/
def box : Outline S → Box S
  | .leaf _ tip => tip.box
  | .inner _ box _ _ => box

/-- The indices of all nodes, parents first. -/
def indices : Outline S → List Nat
  | .leaf index _ => [index]
  | .inner index _ left right => index :: (left.indices ++ right.indices)

/-- The leaves from left to right. -/
def leaves : Outline S → List (Leaf S)
  | .leaf _ tip => [tip]
  | .inner _ _ left right => left.leaves ++ right.leaves

/-- The indices of parents with those of their children. -/
def links : Outline S → List (Nat × Nat)
  | .leaf _ _ => []
  | .inner index _ left right =>
    (index, left.index) :: (index, right.index) :: (left.links ++ right.links)

/-- A node array has the nodes of an outline. -/
def Describes (nodes : Array (Node S)) : Outline S → Prop
  | .leaf index tip => nodes[index]? = some ⟨tip.box, .leaf tip.start tip.stop⟩
  | .inner index box left right =>
    nodes[index]? = some ⟨box, .inner left.index right.index⟩ ∧
      left.Describes nodes ∧ right.Describes nodes

/-- Children have larger indices than their parents. -/
def ParentsFirst (outline : Outline S) : Prop :=
  ∀ link ∈ outline.links, link.1 < link.2

/-- An outline is the whole of a tree of boxes. -/
structure OfTree (outline : Outline S) (tree : Bvh S) : Prop where
  root : outline.index = 0
  describes : outline.Describes tree.nodes
  indices : outline.indices.Perm (List.range tree.nodes.size)
  parentsFirst : outline.ParentsFirst
  tiles : Tiles 0 outline.leaves tree.order.size

/-! ## Outlines and node arrays -/

/-- Only the nodes of an outline matter to it. -/
theorem Describes.congr {outline : Outline S} {nodes other : Array (Node S)}
    (describes : outline.Describes nodes)
    (same : ∀ index ∈ outline.indices, other[index]? = nodes[index]?) :
    outline.Describes other := by
  induction outline with
  | leaf index tip => exact (same index List.mem_cons_self).trans describes
  | inner index box left right ihLeft ihRight =>
    obtain ⟨root, first, second⟩ := describes
    refine ⟨(same index List.mem_cons_self).trans root, ihLeft first ?_, ihRight second ?_⟩
    · intro child member
      exact same child (List.mem_cons_of_mem _ (List.mem_append_left _ member))
    · intro child member
      exact same child (List.mem_cons_of_mem _ (List.mem_append_right _ member))

/-- The outline from the node of a leaf is that leaf. -/
theorem Describes.exists_eq_leaf {outline : Outline S} {nodes : Array (Node S)}
    (describes : outline.Describes nodes) {box : Box S} {start stop : Nat}
    (present : nodes[outline.index]? = some ⟨box, .leaf start stop⟩) :
    ∃ index, outline = .leaf index ⟨box, start, stop⟩ := by
  cases outline with
  | leaf index tip =>
    have content := describes.symm.trans present
    simp only [Option.some.injEq, Node.mk.injEq, Content.leaf.injEq] at content
    obtain ⟨rfl, rfl, rfl⟩ := content
    exact ⟨index, rfl⟩
  | inner index other first second =>
    have content := describes.1.symm.trans present
    simp at content

/-- The outline from a node with children continues with those. -/
theorem Describes.exists_eq_inner {outline : Outline S} {nodes : Array (Node S)}
    (describes : outline.Describes nodes) {box : Box S} {left right : Nat}
    (present : nodes[outline.index]? = some ⟨box, .inner left right⟩) :
    ∃ index first second, outline = .inner index box first second ∧ first.index = left ∧
      second.index = right := by
  cases outline with
  | leaf index tip =>
    have content := describes.symm.trans present
    simp at content
  | inner index other first second =>
    have content := describes.1.symm.trans present
    simp only [Option.some.injEq, Node.mk.injEq, Content.inner.injEq] at content
    obtain ⟨rfl, sameLeft, sameRight⟩ := content
    exact ⟨index, first, second, rfl, sameLeft, sameRight⟩

/-- **A node array has at most one outline from every node.** -/
theorem Describes.unique {first second : Outline S} {nodes : Array (Node S)}
    (describesFirst : first.Describes nodes) (describesSecond : second.Describes nodes)
    (same : first.index = second.index) : first = second := by
  induction first generalizing second with
  | leaf index tip =>
    have present : nodes[second.index]? = some ⟨tip.box, .leaf tip.start tip.stop⟩ :=
      same ▸ (describesFirst : nodes[(leaf index tip).index]? = _)
    obtain ⟨other, rfl⟩ := describesSecond.exists_eq_leaf present
    exact congrArg (leaf · tip) same
  | inner index box left right ihLeft ihRight =>
    have present : nodes[second.index]? = some ⟨box, .inner left.index right.index⟩ :=
      same ▸ (describesFirst.1 : nodes[(inner index box left right).index]? = _)
    obtain ⟨other, first, last, rfl, sameLeft, sameRight⟩ :=
      describesSecond.exists_eq_inner present
    obtain rfl : index = other := same
    rw [ihLeft describesFirst.2.1 describesSecond.2.1 sameLeft.symm,
      ihRight describesFirst.2.2 describesSecond.2.2 sameRight.symm]

theorem OfTree.unique {first second : Outline S} {tree : Bvh S} (ofTree : first.OfTree tree)
    (other : second.OfTree tree) : first = second :=
  ofTree.describes.unique other.describes (ofTree.root.trans other.root.symm)

theorem Describes.isChild {outline : Outline S} {nodes : Array (Node S)}
    (describes : outline.Describes nodes) {parent child : Nat}
    (link : (parent, child) ∈ outline.links) : IsChild nodes parent child := by
  induction outline with
  | leaf index tip => cases link
  | inner index box left right ihLeft ihRight =>
    simp only [links, List.mem_cons, List.mem_append, Prod.mk.injEq] at link
    obtain ⟨rfl, rfl⟩ | ⟨rfl, rfl⟩ | link | link := link
    · exact ⟨box, left.index, right.index, describes.1, .inl rfl⟩
    · exact ⟨box, left.index, right.index, describes.1, .inr rfl⟩
    · exact ihLeft describes.2.1 link
    · exact ihRight describes.2.2 link

/-- The children of the nodes of an outline are at the ends of its links. -/
theorem Describes.mem_links {outline : Outline S} {nodes : Array (Node S)}
    (describes : outline.Describes nodes) {parent child : Nat}
    (member : parent ∈ outline.indices) (isChild : IsChild nodes parent child) :
    (parent, child) ∈ outline.links := by
  induction outline with
  | leaf index tip =>
    obtain rfl := List.mem_singleton.mp member
    obtain ⟨box, left, right, content, -⟩ := isChild
    rw [describes] at content
    cases content
  | inner index box left right ihLeft ihRight =>
    simp only [indices, List.mem_cons, List.mem_append] at member
    simp only [links, List.mem_cons, List.mem_append, Prod.mk.injEq]
    obtain rfl | member | member := member
    · obtain ⟨box', left', right', content, isChild⟩ := isChild
      rw [describes.1] at content
      cases content
      exact isChild.elim (fun same => .inl ⟨rfl, same⟩) (fun same => .inr (.inl ⟨rfl, same⟩))
    · exact .inr (.inr (.inl (ihLeft describes.2.1 member)))
    · exact .inr (.inr (.inr (ihRight describes.2.2 member)))

/-- Every node but the root is at the end of one link. -/
theorem perm_indices (outline : Outline S) :
    (outline.index :: outline.links.map Prod.snd).Perm outline.indices := by
  induction outline with
  | leaf index tip => exact .refl _
  | inner index box left right ihLeft ihRight =>
    simp only [Outline.index, links, indices, List.map_cons, List.map_append]
    refine List.Perm.cons index (List.Perm.trans ?_ (ihLeft.append ihRight))
    exact List.Perm.cons _ List.perm_middle.symm

theorem OfTree.mem_indices {outline : Outline S} {tree : Bvh S} (ofTree : outline.OfTree tree)
    {index : Nat} : index ∈ outline.indices ↔ index < tree.nodes.size := by
  rw [ofTree.indices.mem_iff, List.mem_range]

/-- A child comes after its parent, within the array. -/
theorem OfTree.lt_of_isChild {outline : Outline S} {tree : Bvh S} (ofTree : outline.OfTree tree)
    {parent child : Nat} (isChild : IsChild tree.nodes parent child) :
    parent < child ∧ child < tree.nodes.size := by
  have allocated : parent < tree.nodes.size := by
    obtain ⟨box, left, right, content, -⟩ := isChild
    exact (Array.getElem?_eq_some_iff.mp content).1
  have link := ofTree.describes.mem_links (ofTree.mem_indices.mpr allocated) isChild
  refine ⟨ofTree.parentsFirst _ link, ofTree.mem_indices.mp (outline.perm_indices.mem_iff.mp ?_)⟩
  exact List.mem_cons_of_mem _ (List.mem_map_of_mem link)

/-- **Every node but the root is the child of exactly one node.** -/
theorem OfTree.existsUnique_parent {outline : Outline S} {tree : Bvh S}
    (ofTree : outline.OfTree tree) {child : Nat} (positive : 0 < child)
    (allocated : child < tree.nodes.size) : ∃! parent, IsChild tree.nodes parent child := by
  have nodup : (outline.index :: outline.links.map Prod.snd).Nodup :=
    (outline.perm_indices.trans ofTree.indices).nodup_iff.mpr List.nodup_range
  have member : child ∈ outline.index :: outline.links.map Prod.snd :=
    outline.perm_indices.mem_iff.mpr (ofTree.mem_indices.mpr allocated)
  rw [ofTree.root, List.mem_cons] at member
  obtain rfl | member := member
  · exact absurd positive (Nat.lt_irrefl 0)
  · obtain ⟨⟨parent, child⟩, link, rfl⟩ := List.mem_map.mp member
    refine ⟨parent, ofTree.describes.isChild link, ?_⟩
    intro other isChild
    have before := ofTree.lt_of_isChild isChild
    have otherLink := ofTree.describes.mem_links
      (ofTree.mem_indices.mpr (Nat.lt_trans before.1 before.2)) isChild
    exact congrArg Prod.fst
      (List.inj_on_of_nodup_map (List.nodup_cons.mp nodup).2 otherLink link rfl)

end Outline

/-! ## Ranges of leaves -/

theorem triangles_between (box : Box S) (before inside after : List Nat) :
    Leaf.triangles ⟨box, before.length, before.length + inside.length⟩
      (before ++ inside ++ after).toArray = inside := by
  simp [Leaf.triangles]

theorem tiles_append {first second : List (Leaf S)} {start middle stop : Nat}
    (firstTiles : Tiles start first middle) (secondTiles : Tiles middle second stop) :
    Tiles start (first ++ second) stop := by
  induction first generalizing start with
  | nil => exact (show start = middle from firstTiles) ▸ secondTiles
  | cons leaf rest ih => exact ⟨firstTiles.1, firstTiles.2.1, ih firstTiles.2.2⟩

theorem le_of_tiles {leaves : List (Leaf S)} {start stop : Nat} (tiles : Tiles start leaves stop) :
    start ≤ stop := by
  induction leaves generalizing start with
  | nil => exact Nat.le_of_eq tiles
  | cons leaf rest ih => exact Nat.le_trans tiles.2.1 (ih tiles.2.2)

/-- Every range lies within the range that the leaves tile. -/
theorem stop_le_of_tiles {leaves : List (Leaf S)} {start stop : Nat}
    (tiles : Tiles start leaves stop) {leaf : Leaf S} (member : leaf ∈ leaves) :
    leaf.start ≤ leaf.stop ∧ leaf.stop ≤ stop := by
  induction leaves generalizing start with
  | nil => cases member
  | cons first rest ih =>
    obtain rfl | member := List.mem_cons.mp member
    · exact ⟨tiles.1 ▸ tiles.2.1, le_of_tiles tiles.2.2⟩
    · exact ih tiles.2.2 member

/-- The ranges of leaves, put together, are the whole range that they tile. -/
theorem flatMap_triangles_of_tiles {leaves : List (Leaf S)} {start stop : Nat}
    (tiles : Tiles start leaves stop) (order : Array Nat) :
    leaves.flatMap (fun leaf => leaf.triangles order) = (order.extract start stop).toList := by
  induction leaves generalizing start with
  | nil => simp [show start = stop from tiles]
  | cons leaf rest ih =>
    obtain ⟨rfl, ordered, tiles⟩ := tiles
    rw [List.flatMap_cons, ih tiles, Leaf.triangles, ← Array.toList_append,
      Array.extract_append_extract, Nat.min_eq_left ordered, Nat.max_eq_right (le_of_tiles tiles)]

/-! ## The outline of what a construction writes -/

/-- Where the nodes of a tree go when it is written: the root to a given index,
everything else from the next free index on, and the items of the leaves from a
given place on. -/
def Growth.outline : Growth S → Nat → Nat → Nat → Outline S
  | .leaf box items, index, _, start => .leaf index ⟨box, start, start + items.length⟩
  | .inner box first second, index, next, start =>
    .inner index box (first.outline next (next + 2) start)
      (second.outline (next + 1) (next + 2 + 2 * first.cuts) (start + first.items.length))

namespace Growth

@[simp] theorem index_outline (growth : Growth S) (index next start : Nat) :
    (growth.outline index next start).index = index := by
  cases growth <;> rfl

/-- A tree uses the index of its root and as many further ones as it has nodes. -/
theorem perm_indices_outline (growth : Growth S) (index next start : Nat) :
    (growth.outline index next start).indices.Perm
      (index :: List.range' next (2 * growth.cuts)) := by
  induction growth generalizing index next start with
  | leaf box items => exact .refl _
  | inner box first second ihFirst ihSecond =>
    have joined : List.range' next (2 * (first.cuts + second.cuts + 1)) =
        next :: (next + 1) :: (List.range' (next + 2) (2 * first.cuts) ++
          List.range' (next + 2 + 2 * first.cuts) (2 * second.cuts)) := by
      have count : 2 * (first.cuts + second.cuts + 1) =
          2 * first.cuts + 2 * second.cuts + 1 + 1 := by omega
      rw [count, List.range'_succ, List.range'_succ, List.range'_append_1]
    simp only [outline, Outline.indices, cuts, joined]
    refine List.Perm.cons index (((ihFirst _ _ _).append (ihSecond _ _ _)).trans ?_)
    exact List.Perm.cons next List.perm_middle

theorem mem_indices_outline {growth : Growth S} {index next start node : Nat} :
    node ∈ (growth.outline index next start).indices ↔
      node = index ∨ next ≤ node ∧ node < next + 2 * growth.cuts := by
  rw [(growth.perm_indices_outline index next start).mem_iff, List.mem_cons, List.mem_range'_1]

theorem parentsFirst_outline (growth : Growth S) {index next : Nat} (before : index < next)
    (start : Nat) : (growth.outline index next start).ParentsFirst := by
  induction growth generalizing index next start with
  | leaf box items => exact fun link member => nomatch member
  | inner box first second ihFirst ihSecond =>
    intro link member
    simp only [outline, Outline.links, index_outline, List.mem_cons, List.mem_append] at member
    obtain rfl | rfl | member | member := member
    · exact before
    · exact Nat.lt_succ_of_lt before
    · exact ihFirst (by omega) start link member
    · exact ihSecond (by omega) _ link member

theorem tiles_outline (growth : Growth S) (index next start : Nat) :
    Tiles start (growth.outline index next start).leaves (start + growth.items.length) := by
  induction growth generalizing index next start with
  | leaf box items => exact ⟨rfl, Nat.le_add_right _ _, rfl⟩
  | inner box first second ihFirst ihSecond =>
    have stop : start + (Growth.inner box first second).items.length =
        start + first.items.length + second.items.length := by
      simp only [items, List.length_append]
      omega
    rw [stop]
    exact tiles_append (ihFirst _ _ _) (ihSecond _ _ _)

end Growth

variable [Scalar S]

theorem getElem?_openNode (box : Box S) {node : Nat} {nodes : Array (Node S)} {index : Nat}
    (present : index < nodes.size) (other : index ≠ node) :
    (openNode box node nodes)[index]? = nodes[index]? := by
  rw [openNode, allocate, Array.getElem?_setIfInBounds_ne other.symm, Array.getElem?_push,
    Array.getElem?_push, Array.size_push, if_neg (by omega), if_neg (by omega)]

theorem getElem?_openNode_self (box : Box S) {node : Nat} {nodes : Array (Node S)}
    (allocated : node < nodes.size) :
    (openNode box node nodes)[node]? = some ⟨box, .inner nodes.size (nodes.size + 1)⟩ := by
  refine Array.getElem?_setIfInBounds_self_of_lt ?_
  rw [size_allocate]
  omega

/-- Writing a tree leaves the nodes alone that were there, its root apart. -/
theorem getElem?_store (growth : Growth S) {node : Nat} (start : Nat) {nodes : Array (Node S)}
    {index : Nat} (present : index < nodes.size) (other : index ≠ node) :
    (growth.store node start nodes)[index]? = nodes[index]? := by
  induction growth generalizing node start nodes with
  | leaf box items => exact Array.getElem?_setIfInBounds_ne other.symm
  | inner box first second ihFirst ihSecond =>
    have notLeft : index ≠ nodes.size := by omega
    have notRight : index ≠ nodes.size + 1 := by omega
    have inOpened : index < (openNode box node nodes).size := by
      rw [size_openNode]
      omega
    rw [Growth.store, ihSecond _ (by rw [size_store]; omega) notRight,
      ihFirst _ inOpened notLeft, getElem?_openNode box present other]

/-- Writing a tree makes its outline that of the node array. -/
theorem describes_store (growth : Growth S) {node : Nat} (start : Nat) {nodes : Array (Node S)}
    (allocated : node < nodes.size) :
    (growth.outline node nodes.size start).Describes (growth.store node start nodes) := by
  induction growth generalizing node start nodes with
  | leaf box items => exact Array.getElem?_setIfInBounds_self_of_lt allocated
  | inner box first second ihFirst ihSecond =>
    let left := nodes.size
    let opened := openNode box node nodes
    let filled := first.store left start opened
    let middle := start + first.items.length
    have openedSize : opened.size = left + 2 := size_openNode box node nodes
    have filledSize : filled.size = left + 2 + 2 * first.cuts := by
      rw [size_store, openedSize]
    have firstDescribes := ihFirst start (show left < opened.size by omega)
    have secondDescribes := ihSecond middle (show left + 1 < filled.size by omega)
    rw [openedSize] at firstDescribes
    rw [filledSize] at secondDescribes
    have before : node < left := allocated
    refine ⟨?_, firstDescribes.congr ?_, secondDescribes⟩
    · simp only [Growth.index_outline]
      change (second.store (left + 1) middle filled)[node]? = _
      rw [getElem?_store second _ (by omega) (by omega),
        getElem?_store first _ (by omega) (by omega), getElem?_openNode_self box allocated]
    · intro index member
      rw [Growth.mem_indices_outline] at member
      change (second.store (left + 1) middle filled)[index]? = filled[index]?
      exact getElem?_store second _ (by omega) (by omega)

/-- The order of a tree of boxes is that of the leaves. -/
theorem order_build (positions : Array (Vec3 S)) (faces : Array Face) :
    (build positions faces).order =
      ((grow (itemsOf positions faces)).items.map Item.index).toArray := by
  have length := length_items_grow (itemsOf positions faces)
  rw [length_itemsOf] at length
  rw [build_eq_settle, settle, ← Array.toList_inj, toList_overwrite (by simp [length])]
  simp [length]

/-- **A tree of boxes stores the tree that grows from all items.** -/
theorem ofTree_outline (positions : Array (Vec3 S)) (faces : Array Face) :
    ((grow (itemsOf positions faces)).outline 0 1 0).OfTree (build positions faces) := by
  let grown := grow (itemsOf positions faces)
  have isNodes : (build positions faces).nodes = grown.store 0 0 #[placeholder] :=
    congrArg Bvh.nodes (build_eq_settle positions faces)
  have allocated : 0 < (#[placeholder] : Array (Node S)).size := Nat.one_pos
  constructor
  · exact Growth.index_outline _ 0 1 0
  · exact isNodes ▸ describes_store grown 0 allocated
  · rw [isNodes, size_store, List.range_eq_range', Nat.add_comm]
    exact Growth.perm_indices_outline _ 0 1 0
  · exact Growth.parentsFirst_outline _ Nat.one_pos 0
  · rw [order_build]
    simpa using grown.tiles_outline 0 1 0

end RayTracer.Bvh
