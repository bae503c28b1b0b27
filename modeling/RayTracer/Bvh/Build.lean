import RayTracer.Bvh.Plan
import RayTracer.Bvh.Range

/-!
# Trees of boxes

A tree of boxes stores its nodes in one array; an inner node refers to its
children by index, and a leaf to a range of a shared order of the triangles.

Building keeps a stack of tasks. A task is a node that has been allocated and
the range of the order that belongs under it. The task on top is taken off the
stack, and the items of its range are read. The range is left in the order of
its plan; either the node becomes a leaf, or two nodes are allocated for the
parts of the range and their tasks are put on the stack, the first part on top.
Every task above the leaves is replaced by two smaller ones, which bounds the
number of steps (`Progress.workload`).

Each step reads a range of the order and the items in it, and writes a node, and
faults when one of them is not there. From the start of a construction this
never happens: the order stays a permutation of all triangles, every task has an
allocated node and a range inside the order, and the ranges of the tasks follow
each other on the stack without overlapping (`Progress.Sound`). One step keeps
this, so a construction completes (`exists_construct`).
-/

set_option autoImplicit false

namespace RayTracer

namespace Bvh

/-- What belongs to a node. -/
inductive Content where
  /-- The indices of the two children. -/
  | inner (left right : Nat)
  /-- The range of the triangles of a leaf, without its end. -/
  | leaf (start stop : Nat)
deriving Repr, DecidableEq, Inhabited

/-- A leaf is a node without children. -/
def Content.isLeaf : Content → Bool
  | .inner _ _ => false
  | .leaf _ _ => true

/-- A box and what belongs under it. -/
structure Node (S : Type) where
  /-- The box around everything under the node. -/
  box : Box S
  /-- What belongs to the node. -/
  content : Content
deriving Repr, DecidableEq

end Bvh

/-- A tree of boxes over the triangles of a mesh. -/
structure Bvh (S : Type) where
  /-- The nodes, starting with the root. -/
  nodes : Array (Bvh.Node S)
  /-- The triangles in the order of the leaves. -/
  order : Array Nat
  /-- The number of levels. -/
  depth : Nat
deriving Repr, DecidableEq

namespace Bvh

variable {S : Type} [Scalar S]

/-! ## Steps -/

/-- A node whose range has yet to be placed. -/
structure Task where
  /-- The index of the node. -/
  node : Nat
  /-- Where the range starts. -/
  start : Nat
  /-- Where the range ends, itself not included. -/
  stop : Nat
  /-- The level of the node. -/
  level : Nat
deriving Repr, DecidableEq

/-- A tree under construction. -/
structure Progress (S : Type) where
  /-- The tree so far. -/
  tree : Bvh S
  /-- The tasks still to be done, the next one first. -/
  pending : List Task
deriving Repr

/-- A node that is going to be overwritten. -/
def placeholder : Node S := ⟨.empty, .leaf 0 0⟩

/-- Allocate two nodes next to each other. -/
def allocate (nodes : Array (Node S)) : Array (Node S) :=
  (nodes.push placeholder).push placeholder

/-- Write the node of a task and the order of its range. -/
def Task.write (task : Task) (node : Node S) (placed : List (Item S)) (tree : Bvh S) :
    Except OutOfRange (Bvh S) := do
  let nodes ← store tree.nodes task.node node
  let order := overwrite tree.order task.start (placed.map Item.index)
  return ⟨nodes, order, max tree.depth task.level⟩

/-- Do one task. -/
def perform (items : Array (Item S)) (task : Task) (progress : Progress S) :
    Except OutOfRange (Progress S) := do
  let range ← readItems items progress.tree.order task.start task.stop
  let box := boundsOf range
  match plan range with
  | .leaf placed =>
    let tree ← task.write ⟨box, .leaf task.start task.stop⟩ placed progress.tree
    return { progress with tree }
  | .cut placed position =>
    let left := progress.tree.nodes.size
    let middle := task.start + position
    let tree ← task.write ⟨box, .inner left (left + 1)⟩ placed
      { progress.tree with nodes := allocate progress.tree.nodes }
    return ⟨tree, ⟨left, task.start, middle, task.level + 1⟩ ::
      ⟨left + 1, middle, task.stop, task.level + 1⟩ :: progress.pending⟩

/-- The next state of a construction, or none when it is complete. -/
def advance (items : Array (Item S)) (progress : Progress S) :
    Except OutOfRange (Option (Progress S)) :=
  match progress.pending with
  | [] => .ok none
  | task :: rest => (perform items task { progress with pending := rest }).map some

/-- What one task can do to the state of a construction. -/
theorem perform_cases {items : Array (Item S)} {task : Task} {progress next : Progress S}
    (performed : perform items task progress = .ok next) :
    ∃ range, readItems items progress.tree.order task.start task.stop = .ok range ∧
      ((∃ placed, plan range = .leaf placed ∧
          task.write ⟨boundsOf range, .leaf task.start task.stop⟩ placed progress.tree =
            .ok next.tree ∧
          next.pending = progress.pending) ∨
        ∃ placed position, plan range = .cut placed position ∧
          task.write ⟨boundsOf range, .inner progress.tree.nodes.size
              (progress.tree.nodes.size + 1)⟩ placed
            { progress.tree with nodes := allocate progress.tree.nodes } = .ok next.tree ∧
          next.pending =
            ⟨progress.tree.nodes.size, task.start, task.start + position, task.level + 1⟩ ::
              ⟨progress.tree.nodes.size + 1, task.start + position, task.stop, task.level + 1⟩ ::
                progress.pending) := by
  obtain ⟨range, read, performed⟩ := exists_of_bind_eq_ok performed
  refine ⟨range, read, ?_⟩
  split at performed
  · rename_i placed planned
    obtain ⟨tree, written, performed⟩ := exists_of_bind_eq_ok performed
    obtain rfl := Except.ok.inj performed
    exact .inl ⟨placed, planned, written, rfl⟩
  · rename_i placed position planned
    obtain ⟨tree, written, performed⟩ := exists_of_bind_eq_ok performed
    obtain rfl := Except.ok.inj performed
    exact .inr ⟨placed, position, planned, written, rfl⟩

/-! ## Completing -/

/-- A bound on the number of tasks that a task gives rise to, itself included. -/
def Task.workload (task : Task) : Nat := max 1 (2 * (task.stop - task.start) - 1)

/-- A bound on the number of tasks still to be done. -/
def Progress.workload (progress : Progress S) : Nat :=
  progress.pending.foldr (fun task total => task.workload + total) 0

theorem workload_of_perform {items : Array (Item S)} {task : Task} {progress next : Progress S}
    (performed : perform items task progress = .ok next) :
    next.workload < task.workload + progress.workload := by
  obtain ⟨range, read, change⟩ := perform_cases performed
  have length := length_of_readItems read
  simp only [Progress.workload]
  obtain ⟨placed, -, -, pending⟩ | ⟨placed, position, planned, -, pending⟩ := change
  · rw [pending, Task.workload]
    omega
  · have inside := inside_of_plan_eq_cut planned
    simp only [pending, List.foldr_cons, Task.workload]
    omega

theorem workload_of_advance {items : Array (Item S)} {progress next : Progress S}
    (advanced : advance items progress = .ok (some next)) : next.workload < progress.workload := by
  unfold advance at advanced
  split at advanced
  · cases advanced
  · rename_i task rest pending
    obtain ⟨other, performed, same⟩ := exists_of_map_eq_ok advanced
    obtain rfl := Option.some.inj same
    have less := workload_of_perform performed
    simpa only [Progress.workload, pending, List.foldr_cons] using less

/-- Do all tasks. -/
def complete (items : Array (Item S)) (progress : Progress S) : Except OutOfRange (Bvh S) :=
  match _ : advance items progress with
  | .error fault => .error fault
  | .ok none => .ok progress.tree
  | .ok (some next) => complete items next
termination_by progress.workload
decreasing_by exact workload_of_advance ‹_›

theorem complete_of_advance {items : Array (Item S)} {progress next : Progress S}
    (advanced : advance items progress = .ok (some next)) :
    complete items progress = complete items next := by
  rw [complete]
  split
  · rename_i faulted
    cases faulted.symm.trans advanced
  · rename_i done
    cases done.symm.trans advanced
  · rename_i other advanced'
    obtain rfl := Option.some.inj (Except.ok.inj (advanced'.symm.trans advanced))
    rfl

theorem advance_eq_none_iff {items : Array (Item S)} {progress : Progress S} :
    advance items progress = .ok none ↔ progress.pending = [] := by
  unfold advance
  split
  · rename_i done
    exact iff_of_true rfl done
  · rename_i task rest pending
    refine iff_of_false (fun advanced => ?_) (by simp [pending])
    obtain ⟨next, -, impossible⟩ := exists_of_map_eq_ok advanced
    cases impossible

theorem complete_of_done {items : Array (Item S)} {progress : Progress S}
    (done : progress.pending = []) : complete items progress = .ok progress.tree := by
  have isLast : advance items progress = .ok none := advance_eq_none_iff.mpr done
  rw [complete]
  split
  · rename_i faulted
    cases faulted.symm.trans isLast
  · rfl
  · rename_i advanced
    cases advanced.symm.trans isLast

/-- The start of a construction: the root and all triangles in order. -/
def starting (count : Nat) : Progress S :=
  ⟨⟨#[placeholder], Array.range count, 1⟩, [⟨0, 0, count, 1⟩]⟩

/-- Construct the tree of boxes over the faces of a mesh. -/
def construct (positions : Array (Vec3 S)) (faces : Array Face) : Except OutOfRange (Bvh S) :=
  complete (itemsOf positions faces).toArray (starting faces.size)

/-! ## Sound states

What every state of a construction is like. -/

/-- A state of a construction over a number of triangles in which every task has
a node to write and a range inside the order. The ranges of the tasks follow each
other from the top of the stack down, and the order has every triangle once. -/
structure Progress.Sound (progress : Progress S) (count : Nat) : Prop where
  allocated : ∀ task ∈ progress.pending, task.node < progress.tree.nodes.size
  inside : ∀ task ∈ progress.pending, task.start ≤ task.stop ∧ task.stop ≤ count
  apart : progress.pending.Pairwise fun upper lower => upper.stop ≤ lower.start
  order : progress.tree.order.toList.Perm (List.range count)

omit [Scalar S] in
theorem write_of_lt {task : Task} {tree : Bvh S} (allocated : task.node < tree.nodes.size)
    (node : Node S) (placed : List (Item S)) :
    task.write node placed tree =
      .ok ⟨tree.nodes.setIfInBounds task.node node,
        overwrite tree.order task.start (placed.map Item.index), max tree.depth task.level⟩ := by
  rw [Task.write, store_of_lt allocated]
  rfl

@[simp] theorem size_allocate (nodes : Array (Node S)) :
    (allocate nodes).size = nodes.size + 2 := by
  simp [allocate]

section Steps

variable {items : Array (Item S)} {tree : Bvh S} {task : Task} {rest : List Task}
  {range placed : List (Item S)}

/-- The step that makes a leaf. -/
theorem advance_of_leaf
    (read : readItems items tree.order task.start task.stop = .ok range)
    (allocated : task.node < tree.nodes.size) (planned : plan range = .leaf placed) :
    advance items ⟨tree, task :: rest⟩ = .ok (some
      ⟨⟨tree.nodes.setIfInBounds task.node ⟨boundsOf range, .leaf task.start task.stop⟩,
        overwrite tree.order task.start (placed.map Item.index), max tree.depth task.level⟩,
      rest⟩) := by
  simp only [advance, perform, read, planned, write_of_lt allocated, bind, Except.bind]
  rfl

/-- The step that cuts a range. -/
theorem advance_of_cut {position : Nat}
    (read : readItems items tree.order task.start task.stop = .ok range)
    (allocated : task.node < tree.nodes.size) (planned : plan range = .cut placed position) :
    advance items ⟨tree, task :: rest⟩ = .ok (some
      ⟨⟨(allocate tree.nodes).setIfInBounds task.node
            ⟨boundsOf range, .inner tree.nodes.size (tree.nodes.size + 1)⟩,
          overwrite tree.order task.start (placed.map Item.index), max tree.depth task.level⟩,
        ⟨tree.nodes.size, task.start, task.start + position, task.level + 1⟩ ::
          ⟨tree.nodes.size + 1, task.start + position, task.stop, task.level + 1⟩ :: rest⟩) := by
  have inRange : task.node < ({ tree with nodes := allocate tree.nodes } : Bvh S).nodes.size := by
    rw [size_allocate]
    omega
  simp only [advance, perform, read, planned, write_of_lt inRange, bind, Except.bind]
  rfl

end Steps

section Sound

variable {items : Array (Item S)} (inPlace : InPlace items) {progress : Progress S}
  (sound : progress.Sound items.size)
include inPlace sound

omit [Scalar S] in
/-- The range of every task can be read. -/
theorem Progress.Sound.exists_readItems {task : Task} (member : task ∈ progress.pending) :
    ∃ range, readItems items progress.tree.order task.start task.stop = .ok range := by
  obtain ⟨ordered, within⟩ := sound.inside task member
  have size := sound.order.length_eq
  rw [Array.length_toList, List.length_range] at size
  refine Bvh.exists_readItems inPlace ⟨ordered, size ▸ within⟩ fun index isIndex => ?_
  exact List.mem_range.mp (sound.order.subset isIndex)

omit [Scalar S] in
/-- Leaving a range in another order keeps every triangle in the order once. -/
theorem Progress.Sound.perm_overwrite {task : Task} {range placed : List (Item S)}
    (read : readItems items progress.tree.order task.start task.stop = .ok range)
    (perm : placed.Perm range) :
    (overwrite progress.tree.order task.start (placed.map Item.index)).toList.Perm
      (List.range items.size) := by
  obtain ⟨inside, areIndices, -⟩ := (readItems_eq_ok_iff inPlace).mp read
  refine (Bvh.perm_overwrite inside ?_).trans sound.order
  rw [areIndices]
  exact perm.map Item.index

/-- **A step of a construction does not fault, and it keeps the state sound.** -/
theorem Progress.Sound.exists_advance {task : Task} {rest : List Task}
    (pending : progress.pending = task :: rest) :
    ∃ next, advance items progress = .ok (some next) ∧ next.Sound items.size := by
  obtain ⟨tree, _⟩ := progress
  obtain rfl : _ = task :: rest := pending
  obtain ⟨range, read⟩ := sound.exists_readItems inPlace List.mem_cons_self
  have length := length_of_readItems read
  obtain ⟨allocated, restAllocated⟩ := List.forall_mem_cons.mp sound.allocated
  obtain ⟨⟨ordered, within⟩, restInside⟩ := List.forall_mem_cons.mp sound.inside
  obtain ⟨after, restApart⟩ := List.pairwise_cons.mp sound.apart
  cases planned : plan range with
  | leaf placed =>
    refine ⟨_, advance_of_leaf read allocated planned, ?_, restInside, restApart, ?_⟩
    · intro other member
      rw [Array.size_setIfInBounds]
      exact restAllocated other member
    · exact sound.perm_overwrite inPlace read (perm_of_plan_eq_leaf planned)
  | cut placed position =>
    obtain ⟨positive, below⟩ := inside_of_plan_eq_cut planned
    refine ⟨_, advance_of_cut read allocated planned, ?_, ?_, ?_, ?_⟩
    · simp only [List.forall_mem_cons, Array.size_setIfInBounds, size_allocate]
      refine ⟨by omega, by omega, fun other member => ?_⟩
      exact Nat.lt_add_right 2 (restAllocated other member)
    · simp only [List.forall_mem_cons]
      exact ⟨by omega, by omega, restInside⟩
    · simp only [List.pairwise_cons, List.forall_mem_cons]
      refine ⟨⟨Nat.le_refl _, fun other member => ?_⟩, after, restApart⟩
      exact Nat.le_trans (by omega) (after other member)
    · exact sound.perm_overwrite inPlace read (perm_of_plan_eq_cut planned)

omit sound in
/-- **A construction in a sound state completes.** -/
theorem exists_complete (progress : Progress S) (sound : progress.Sound items.size) :
    ∃ tree, complete items progress = .ok tree := by
  cases pending : progress.pending with
  | nil => exact ⟨_, complete_of_done pending⟩
  | cons task rest =>
    obtain ⟨next, advanced, nextSound⟩ := sound.exists_advance inPlace pending
    obtain ⟨tree, completed⟩ := exists_complete next nextSound
    exact ⟨tree, (complete_of_advance advanced).trans completed⟩
termination_by progress.workload
decreasing_by exact workload_of_advance advanced

end Sound

theorem sound_starting (count : Nat) : (starting count : Progress S).Sound count := by
  refine ⟨?_, ?_, List.pairwise_singleton _ _, ?_⟩
  · exact List.forall_mem_singleton.mpr Nat.one_pos
  · exact List.forall_mem_singleton.mpr ⟨Nat.zero_le count, Nat.le_refl count⟩
  · rw [starting, Array.toList_range]

/-- **Constructing a tree never faults.** -/
theorem exists_construct (positions : Array (Vec3 S)) (faces : Array Face) :
    ∃ tree, construct positions faces = .ok tree := by
  refine exists_complete (inPlace_itemsOf positions faces) (starting faces.size) ?_
  rw [size_itemsOf]
  exact sound_starting faces.size

/-! ## Trees -/

/-- The tree of boxes over the faces of a mesh. -/
def build (positions : Array (Vec3 S)) (faces : Array Face) : Bvh S :=
  match constructed : construct positions faces with
  | .ok tree => tree
  | .error _ => absurd (exists_construct positions faces) (by simp [constructed])

theorem construct_eq_build (positions : Array (Vec3 S)) (faces : Array Face) :
    construct positions faces = .ok (build positions faces) := by
  obtain ⟨tree, constructed⟩ := exists_construct positions faces
  unfold build
  split
  · assumption
  · rename_i faulted
    rw [constructed] at faulted
    cases faulted

/-- The tree of boxes over nothing: a single empty leaf. -/
def empty : Bvh S := ⟨#[placeholder], #[], 1⟩

/-! ## Measures of a tree -/

/-- The number of leaves. -/
def leafCount (tree : Bvh S) : Nat := tree.nodes.countP fun node => node.content.isLeaf

/-- The box around everything in the tree. -/
def bounds (tree : Bvh S) : Except OutOfRange (Box S) := do
  return (← fetch tree.nodes 0).box

end Bvh

end RayTracer
