import RayTracer.Bvh.Traverse
import RayTracer.Proofs.Bvh.Bounds

/-!
# Traversal finds the leaves that a ray meets

A traversal with an explicit stack does what the recursion over the outline of a
tree does: a node on top of the stack is replaced by everything that is reached
from it, in at most as many visits as there are nodes under it
(`traverse_outline`). What is reached from a node is nothing when its box is
missed.

In exact arithmetic the boxes of a tree over finite vertices are nested, and a
ray that meets a box meets every box around it. So a missed box has no leaf under
it that the ray meets (`Outline.Nested.reached_eq_met`), and the candidates are
the ranges of exactly those leaves whose own boxes the ray meets, from left to
right.
-/

set_option autoImplicit false

namespace RayTracer.Bvh

namespace Outline

variable {S : Type}

/-- All ranges lie within an array. -/
def Inside (order : Array Nat) (outline : Outline S) : Prop :=
  ∀ leaf ∈ outline.leaves, leaf.start ≤ leaf.stop ∧ leaf.stop ≤ order.size

theorem OfTree.inside {outline : Outline S} {tree : Bvh S} (ofTree : outline.OfTree tree) :
    outline.Inside tree.order :=
  fun _ member => stop_le_of_tiles ofTree.tiles member

variable [Scalar S]

/-- The triangles reached from a node: none when its box is missed, and
otherwise those of a leaf, or those reached from both children. -/
def reached (ray : Ray S) (bound : S) (order : Array Nat) : Outline S → List Nat
  | .leaf _ tip => if tip.box.meets ray bound then tip.triangles order else []
  | .inner _ box left right =>
    if box.meets ray bound then left.reached ray bound order ++ right.reached ray bound order
    else []

/-- The number of nodes visited from a node. -/
def visits (ray : Ray S) (bound : S) : Outline S → Nat
  | .leaf _ _ => 1
  | .inner _ box left right =>
    if box.meets ray bound then left.visits ray bound + right.visits ray bound + 1 else 1

theorem visits_le (ray : Ray S) (bound : S) (outline : Outline S) :
    outline.visits ray bound ≤ outline.indices.length := by
  induction outline with
  | leaf index tip => exact Nat.le_refl 1
  | inner index box left right ihLeft ihRight =>
    simp only [visits, indices, List.length_cons, List.length_append]
    split <;> omega

/-- The triangles in the ranges of the leaves whose own boxes a ray meets. -/
def met (ray : Ray S) (bound : S) (order : Array Nat) (outline : Outline S) : List Nat :=
  (outline.leaves.filter fun leaf => leaf.box.meets ray bound).flatMap fun leaf =>
    leaf.triangles order

theorem met_inner (ray : Ray S) (bound : S) (order : Array Nat) (index : Nat) (box : Box S)
    (left right : Outline S) :
    (inner index box left right).met ray bound order =
      left.met ray bound order ++ right.met ray bound order := by
  rw [met, leaves, List.filter_append, List.flatMap_append]
  rfl

/-- The ranges of some leaves are a part of the whole. -/
theorem OfTree.met_sublist {outline : Outline S} {tree : Bvh S} (ofTree : outline.OfTree tree)
    (ray : Ray S) (bound : S) :
    (outline.met ray bound tree.order).Sublist tree.order.toList := by
  have whole := flatMap_triangles_of_tiles ofTree.tiles tree.order
  rw [Array.extract_size] at whole
  rw [← whole]
  exact List.Sublist.flatMap List.filter_sublist _

/-- A triangle is in the range of a leaf that is met exactly when its own leaf is met. -/
theorem OfTree.mem_met_iff {positions : Array (Vec3 S)} {faces : Array Face}
    {outline : Outline S} (ofTree : outline.OfTree (build positions faces)) {leaf : Leaf S}
    (member : leaf ∈ outline.leaves) {triangle : Nat}
    (holds : triangle ∈ leaf.triangles (build positions faces).order) (ray : Ray S) (bound : S) :
    triangle ∈ outline.met ray bound (build positions faces).order ↔
      leaf.box.meets ray bound = true := by
  simp only [met, List.mem_flatMap, List.mem_filter]
  constructor
  · rintro ⟨other, ⟨otherMember, otherMeets⟩, otherHolds⟩
    exact ofTree.leaf_unique otherMember member otherHolds holds ▸ otherMeets
  · exact fun meets => ⟨leaf, ⟨member, meets⟩, holds⟩

end Outline

/-! ## Stack and recursion -/

section Traversal

variable {S : Type} [Scalar S]

/-- Visiting a node takes one step of a traversal. -/
theorem traverse_cons {tree : Bvh S} {ray : Ray S} {bound : S} {index : Nat} {rest : List Nat}
    {found : Array Nat} {visited : Scratch}
    (visit : visit tree ray bound index ⟨rest, found⟩ = .ok visited) (more : Nat) :
    traverse tree ray bound (more + 1) ⟨index :: rest, found⟩ =
      traverse tree ray bound more visited := by
  rw [traverse]
  exact congrArg (· >>= traverse tree ray bound more) visit

theorem traverse_nil (tree : Bvh S) (ray : Ray S) (bound : S) (visits : Nat) (found : Array Nat) :
    traverse tree ray bound visits ⟨[], found⟩ = .ok ⟨[], found⟩ := by
  cases visits <;> rfl

variable {tree : Bvh S} {ray : Ray S} {bound : S} {index : Nat}

theorem visit_missed {node : Node S} (present : tree.nodes[index]? = some node)
    (missed : node.box.meets ray bound = false) (scratch : Scratch) :
    visit tree ray bound index scratch = .ok scratch := by
  rw [visit, fetch, present]
  exact if_neg (by rw [missed]; exact Bool.false_ne_true)

theorem visit_inner {box : Box S} {left right : Nat}
    (present : tree.nodes[index]? = some ⟨box, .inner left right⟩)
    (meets : box.meets ray bound = true) (rest : List Nat) (found : Array Nat) :
    visit tree ray bound index ⟨rest, found⟩ = .ok ⟨left :: right :: rest, found⟩ := by
  rw [visit, fetch, present]
  exact if_pos meets

theorem visit_leaf {tip : Leaf S}
    (present : tree.nodes[index]? = some ⟨tip.box, .leaf tip.start tip.stop⟩)
    (inside : tip.start ≤ tip.stop ∧ tip.stop ≤ tree.order.size)
    (meets : tip.box.meets ray bound = true) (rest : List Nat) (found : Array Nat) :
    visit tree ray bound index ⟨rest, found⟩ =
      .ok ⟨rest, found ++ (tip.triangles tree.order).toArray⟩ := by
  rw [visit, fetch, present]
  refine (if_pos meets).trans ?_
  rw [fetchRange, if_pos inside]
  rfl

/-- **A traversal replaces a node on the stack by everything that is reached from it.** -/
theorem traverse_outline {outline : Outline S} (describes : outline.Describes tree.nodes)
    (inside : outline.Inside tree.order) (ray : Ray S) (bound : S) (rest : List Nat)
    (found : Array Nat) (more : Nat) :
    traverse tree ray bound (more + outline.visits ray bound) ⟨outline.index :: rest, found⟩ =
      traverse tree ray bound more
        ⟨rest, found ++ (outline.reached ray bound tree.order).toArray⟩ := by
  induction outline generalizing rest found more with
  | leaf index tip =>
    cases meets : tip.box.meets ray bound with
    | false =>
      refine (traverse_cons (visit_missed describes meets _) more).trans ?_
      simp [Outline.reached, meets]
    | true =>
      have visited := visit_leaf describes (inside tip List.mem_cons_self) meets rest found
      refine (traverse_cons visited more).trans ?_
      simp [Outline.reached, meets]
  | inner index box left right ihLeft ihRight =>
    obtain ⟨root, leftDescribes, rightDescribes⟩ := describes
    have leftInside : left.Inside tree.order :=
      fun leaf member => inside leaf (List.mem_append_left _ member)
    have rightInside : right.Inside tree.order :=
      fun leaf member => inside leaf (List.mem_append_right _ member)
    cases meets : box.meets ray bound with
    | false =>
      simp only [Outline.visits, Outline.reached, meets, Bool.false_eq_true, if_false]
      refine (traverse_cons (visit_missed root meets _) more).trans ?_
      simp
    | true =>
      have visits : more + (Outline.inner index box left right).visits ray bound =
          more + right.visits ray bound + left.visits ray bound + 1 := by
        simp only [Outline.visits, meets, if_true]
        omega
      rw [visits]
      refine (traverse_cons (visit_inner root meets rest found) _).trans ?_
      rw [ihLeft leftDescribes leftInside, ihRight rightDescribes rightInside]
      simp [Outline.reached, meets]

/-- The candidates of a ray are what is reached from the root, whatever the
buffers held before. -/
theorem collect_eq_reached {outline : Outline S} (ofTree : outline.OfTree tree) (ray : Ray S)
    (bound : S) (scratch : Scratch) :
    collect tree ray bound scratch =
      .ok ⟨[], (outline.reached ray bound tree.order).toArray⟩ := by
  have enough : outline.visits ray bound ≤ tree.nodes.size := by
    have nodes := ofTree.indices.length_eq
    rw [List.length_range] at nodes
    exact nodes ▸ outline.visits_le ray bound
  obtain ⟨more, visits⟩ := Nat.exists_eq_add_of_le' enough
  have run := traverse_outline ofTree.describes ofTree.inside ray bound [] #[] more
  rw [← visits, ofTree.root, traverse_nil] at run
  rw [collect, Scratch.restart, run, Array.empty_append]

theorem Outline.OfTree.candidates_eq_reached {outline : Outline S}
    (ofTree : outline.OfTree tree) (ray : Ray S) (bound : S) :
    candidates tree ray bound = .ok (outline.reached ray bound tree.order).toArray := by
  rw [candidates, collect_eq_reached ofTree]
  rfl

/-- What is reached from a node is in the ranges of leaves that are met. -/
theorem Outline.reached_subset_met (ray : Ray S) (bound : S) (order : Array Nat)
    (outline : Outline S) : outline.reached ray bound order ⊆ outline.met ray bound order := by
  induction outline with
  | leaf index tip =>
    cases meets : tip.box.meets ray bound <;> simp [reached, met, leaves, meets]
  | inner index box left right ihLeft ihRight =>
    rw [met_inner, reached]
    split
    · intro triangle member
      exact List.mem_append.mpr ((List.mem_append.mp member).imp (@ihLeft triangle)
        (@ihRight triangle))
    · exact List.nil_subset _

/-- The candidates of a ray are triangles of the mesh. -/
theorem exists_candidates_lt (positions : Array (Vec3 S)) (faces : Array Face) (ray : Ray S)
    (bound : S) :
    ∃ found, candidates (build positions faces) ray bound = .ok found ∧
      ∀ triangle ∈ found.toList, triangle < faces.size := by
  have ofTree := ofTree_outline positions faces
  refine ⟨_, ofTree.candidates_eq_reached ray bound, fun triangle member => ?_⟩
  have isMet := Outline.reached_subset_met ray bound _ _ member
  obtain ⟨leaf, meets, holds⟩ := List.mem_flatMap.mp isMet
  exact ofTree.lt_size_of_mem (List.mem_of_mem_filter meets) holds

end Traversal

/-! ## Exact arithmetic -/

namespace Outline

/-- Nothing is missed because of a box above it. -/
theorem Nested.reached_eq_met {outline : Outline Exact} (nested : outline.Nested)
    {ray : Ray Exact} (finite : ray.IsFinite) (bound : Exact) (order : Array Nat) :
    outline.reached ray bound order = outline.met ray bound order := by
  induction outline with
  | leaf index tip =>
    cases meets : tip.box.meets ray bound <;> simp [reached, met, leaves, meets]
  | inner index box left right ihLeft ihRight =>
    have children := nested.2.2.2
    cases meets : box.meets ray bound with
    | false =>
      have none : (inner index box left right).leaves.filter
          (fun leaf => leaf.box.meets ray bound) = [] := by
        rw [List.filter_eq_nil_iff]
        intro leaf member leafMeets
        obtain ⟨sound, within⟩ := nested.leaf_within member
        have above := Box.meets_of_within sound nested.1 within finite leafMeets
        exact Bool.false_ne_true (meets.symm.trans above)
      rw [met, none]
      simp [reached, meets]
    | true =>
      rw [met_inner, ← ihLeft children.1, ← ihRight children.2]
      simp [reached, meets]

/-- The candidates of a ray over finite vertices, whatever the buffers held before. -/
theorem OfTree.collect_eq_met {positions : Array (Vec3 Exact)} {faces : Array Face}
    {outline : Outline Exact} (ofTree : outline.OfTree (build positions faces))
    (finite : FiniteVertices positions) {ray : Ray Exact} (rayFinite : ray.IsFinite)
    (bound : Exact) (scratch : Scratch) :
    collect (build positions faces) ray bound scratch =
      .ok ⟨[], (outline.met ray bound (build positions faces).order).toArray⟩ := by
  rw [collect_eq_reached ofTree, (ofTree.nested finite).reached_eq_met rayFinite]

theorem OfTree.candidates_eq_met {positions : Array (Vec3 Exact)} {faces : Array Face}
    {outline : Outline Exact} (ofTree : outline.OfTree (build positions faces))
    (finite : FiniteVertices positions) {ray : Ray Exact} (rayFinite : ray.IsFinite)
    (bound : Exact) :
    candidates (build positions faces) ray bound =
      .ok (outline.met ray bound (build positions faces).order).toArray := by
  rw [candidates, ofTree.collect_eq_met finite rayFinite]
  rfl

end Outline

/-- **The candidates of a ray are the triangles in the ranges of exactly those
leaves whose own boxes it meets.** They come in leaf order and none of them
twice; no box above a leaf hides it, and the former content of the buffers does
not matter. -/
theorem collect_eq_leaves {positions : Array (Vec3 Exact)} (finite : FiniteVertices positions)
    (faces : Array Face) {ray : Ray Exact} (rayFinite : ray.IsFinite) (bound : Exact)
    (scratch : Scratch) :
    let tree := build positions faces
    ∃ outline : Outline Exact, outline.OfTree tree ∧
      (∀ other : Outline Exact, other.OfTree tree → other = outline) ∧
      ∃ result, collect tree ray bound scratch = .ok result ∧ result.stack = [] ∧
        result.candidates.toList =
          ((outline.leaves.filter fun leaf => leaf.box.meets ray bound).flatMap fun leaf =>
            leaf.triangles tree.order) ∧
        result.candidates.toList.Nodup ∧
        result.candidates.toList.Sublist tree.order.toList := by
  intro tree
  have ofTree := ofTree_outline positions faces
  have sublist := ofTree.met_sublist ray bound
  exact ⟨_, ofTree, fun other isOutline => isOutline.unique ofTree, _,
    ofTree.collect_eq_met finite rayFinite bound scratch, rfl, rfl,
    (nodup_order_build positions faces).sublist sublist, sublist⟩

/-- A face with a single vertex in range, and buffers that have been used. -/
theorem collect_eq_leaves_of_point :
    let positions : Array (Vec3 Exact) := #[⟨0, 0, 0⟩].map .ofReal
    let ray : Ray Exact := .ofReal ⟨⟨0, 0, -1⟩, ⟨0, 0, 1⟩⟩
    let tree := build positions #[⟨0, 1, 2⟩]
    FiniteVertices positions ∧ ray.IsFinite ∧
      ∃ outline : Outline Exact, outline.OfTree tree ∧
        ∃ result, collect tree ray .infinity ⟨[7], #[3]⟩ = .ok result ∧
          result.candidates.toList =
            ((outline.leaves.filter fun leaf => leaf.box.meets ray .infinity).flatMap fun leaf =>
              leaf.triangles tree.order) := by
  intro positions ray tree
  have finite : FiniteVertices positions := finiteVertices_ofReal _
  have rayFinite : ray.IsFinite := Ray.isFinite_ofReal _
  obtain ⟨outline, ofTree, -, result, collected, -, candidates, -⟩ :=
    collect_eq_leaves finite #[⟨0, 1, 2⟩] rayFinite .infinity ⟨[7], #[3]⟩
  exact ⟨finite, rayFinite, outline, ofTree, result, collected, candidates⟩

end RayTracer.Bvh
