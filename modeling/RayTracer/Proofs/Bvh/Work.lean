import RayTracer.Proofs.Bvh.Census

/-!
# The work of construction and traversal

Neither of the two loops over a stack counts its steps. A step of a construction takes one
task off the stack; a leaf allocates no node and leaves one task less, a cut allocates two
nodes and leaves one task more. So the steps that have been taken and the tasks that are
left make up the nodes that have been allocated (`Takes.balance`), and in the end there were
as many steps as there are nodes.

A traversal visits nodes in the order of the outline, parents first. What it has visited,
followed by everything at and under the nodes on its stack, is always a part of the nodes of
the outline in their order (`Underway`). One visit keeps this and does not fault
(`Underway.visit`), hence every traversal visits a node once at most.
-/

set_option autoImplicit false

namespace RayTracer.Bvh

variable {S : Type} [Scalar S]

/-! ## Steps of a construction -/

section Steps

variable {items : Array (Item S)}

/-- A number of steps of a construction leads from one state to another. -/
inductive Takes (items : Array (Item S)) : Nat → Progress S → Progress S → Prop where
  /-- Without a step nothing changes. -/
  | none (progress : Progress S) : Takes items 0 progress progress
  /-- One more step is taken. -/
  | more {count : Nat} {start before after : Progress S} (takes : Takes items count start before)
      (step : Step items before after) : Takes items (count + 1) start after

theorem exists_takes_of_reaches {start progress : Progress S}
    (reaches : Reaches items start progress) : ∃ count, Takes items count start progress := by
  induction reaches with
  | refl => exact ⟨0, .none start⟩
  | tail _ step ih =>
    obtain ⟨count, takes⟩ := ih
    exact ⟨count + 1, takes.more step⟩

theorem Takes.reaches {count : Nat} {start progress : Progress S}
    (takes : Takes items count start progress) : Reaches items start progress := by
  induction takes with
  | none progress => exact .refl
  | more _ step ih => exact ih.tail step

omit [Scalar S] in
/-- Writing a node allocates none. -/
theorem size_nodes_of_write {task : Task} {node : Node S} {placed : List (Item S)}
    {tree written : Bvh S} (isWritten : task.write node placed tree = .ok written) :
    written.nodes.size = tree.nodes.size := by
  by_cases allocated : task.node < tree.nodes.size
  · rw [write_of_lt allocated] at isWritten
    obtain rfl := Except.ok.inj isWritten
    exact Array.size_setIfInBounds
  · rw [Task.write, store, if_neg allocated] at isWritten
    cases isWritten

/-- What a step takes off the stack and what it allocates. -/
theorem balance_of_step {before after : Progress S} (step : Step items before after) :
    before.pending.length + after.tree.nodes.size =
      after.pending.length + before.tree.nodes.size + 1 := by
  obtain ⟨task, rest, pending⟩ := step.exists_pending
  rw [Step, advance, pending] at step
  obtain ⟨next, performed, same⟩ := exists_of_map_eq_ok step
  obtain rfl := Option.some.inj same
  rw [pending]
  obtain ⟨range, -, change⟩ := perform_cases performed
  obtain ⟨placed, -, written, left⟩ | ⟨placed, position, -, written, left⟩ := change
  · rw [left, size_nodes_of_write written]
    simp only [List.length_cons]
    omega
  · rw [left, size_nodes_of_write written]
    simp only [size_allocate, List.length_cons]
    omega

/-- **Steps that have been taken and tasks that are left make up the allocated nodes.** -/
theorem Takes.balance {count : Nat} {start progress : Progress S}
    (takes : Takes items count start progress) :
    start.pending.length + progress.tree.nodes.size =
      progress.pending.length + start.tree.nodes.size + count := by
  induction takes with
  | none progress => rfl
  | more _ step ih =>
    have balance := balance_of_step step
    omega

/-- All states of a run have the same complete tree. -/
theorem Takes.complete_eq {count : Nat} {start progress : Progress S}
    (takes : Takes items count start progress) :
    complete items progress = complete items start := by
  induction takes with
  | none progress => rfl
  | more _ step ih => exact (complete_of_advance step).symm.trans ih

end Steps

/-- **A construction is complete after as many steps as its tree has nodes, and not before.** -/
theorem steps_of_takes {positions : Array (Vec3 S)} {faces : Array Face} {count : Nat}
    {progress : Progress S}
    (takes : Takes (itemsOf positions faces).toArray count (starting faces.size) progress) :
    count ≤ (build positions faces).nodes.size ∧
      (advance (itemsOf positions faces).toArray progress = .ok none ↔
        count = (build positions faces).nodes.size) := by
  have completed := takes.complete_eq.trans (construct_eq_build positions faces)
  obtain ⟨remaining, further⟩ := exists_takes_of_reaches (reaches_of_complete completed)
  have soFar : progress.tree.nodes.size = progress.pending.length + count := by
    have balance := takes.balance
    simp only [starting, List.length_cons, List.length_nil, List.size_toArray] at balance
    omega
  have total : (build positions faces).nodes.size = count + remaining := by
    have balance := further.balance
    rw [List.length_nil] at balance
    change _ + (build positions faces).nodes.size = _ at balance
    omega
  refine ⟨by omega, ?_⟩
  rw [advance_eq_none_iff]
  constructor
  · intro done
    rw [complete_of_done done] at completed
    rw [← Except.ok.inj completed, soFar, done, List.length_nil, Nat.zero_add]
  · intro all
    obtain rfl : remaining = 0 := by omega
    cases further
    rfl

/-! ## Visits of a traversal -/

section Traversal

variable {tree : Bvh S} {ray : Ray S} {bound : S}

/-- A traversal takes nodes off its stack and visits them, one after the other, and gets from
one state to another. -/
inductive Traverses (tree : Bvh S) (ray : Ray S) (bound : S) :
    Scratch → List Nat → Scratch → Prop where
  /-- Without a visit nothing changes. -/
  | none (scratch : Scratch) : Traverses tree ray bound scratch [] scratch
  /-- The node on top of the stack is visited first. -/
  | more {index : Nat} {rest visited : List Nat} {found : Array Nat} {next last : Scratch}
      (result : visit tree ray bound index ⟨rest, found⟩ = .ok next)
      (further : Traverses tree ray bound next visited last) :
      Traverses tree ray bound ⟨index :: rest, found⟩ (index :: visited) last

/-- A traversal that returns has visited some nodes. -/
theorem exists_traverses {visits : Nat} {scratch last : Scratch}
    (returned : traverse tree ray bound visits scratch = .ok last) :
    ∃ visited, Traverses tree ray bound scratch visited last := by
  induction visits generalizing scratch with
  | zero =>
    obtain rfl := Except.ok.inj returned
    exact ⟨[], .none scratch⟩
  | succ visits ih =>
    obtain ⟨stack, found⟩ := scratch
    cases stack with
    | nil =>
      obtain rfl := Except.ok.inj returned
      exact ⟨[], .none _⟩
    | cons index rest =>
      obtain ⟨next, result, returned⟩ := exists_of_bind_eq_ok returned
      obtain ⟨visited, further⟩ := ih returned
      exact ⟨index :: visited, .more result further⟩

/-- A traversal of an outline is on its way: the nodes on its stack are the roots of parts of
the outline. What it has visited and what is at and under these nodes comes in the order of
the outline. -/
def Underway (tree : Bvh S) (outline : Outline S) (visited stack : List Nat) : Prop :=
  ∃ parts : List (Outline S), stack = parts.map Outline.index ∧
    (∀ part ∈ parts, part.Describes tree.nodes ∧ part.Inside tree.order) ∧
    (visited ++ parts.flatMap Outline.indices).Sublist outline.indices

omit [Scalar S] in
theorem underway_start {outline : Outline S} (ofTree : outline.OfTree tree) (scratch : Scratch) :
    Underway tree outline [] scratch.restart.stack := by
  refine ⟨[outline], ?_, ?_, ?_⟩
  · rw [List.map_singleton, ofTree.root]
    rfl
  · intro part member
    obtain rfl := List.mem_singleton.mp member
    exact ⟨ofTree.describes, ofTree.inside⟩
  · simp

/-- **A visit does not fault and keeps a traversal on its way.** -/
theorem Underway.visit {outline : Outline S} {visited rest : List Nat} {index : Nat}
    (underway : Underway tree outline visited (index :: rest)) (ray : Ray S) (bound : S)
    (found : Array Nat) :
    ∃ next, visit tree ray bound index ⟨rest, found⟩ = .ok next ∧
      Underway tree outline (visited ++ [index]) next.stack := by
  obtain ⟨parts, isStack, described, ordered⟩ := underway
  obtain ⟨part, others, rfl⟩ : ∃ part others, parts = part :: others := by
    cases parts with
    | nil => cases isStack
    | cons part others => exact ⟨part, others, rfl⟩
  obtain ⟨rfl, rfl⟩ := List.cons.inj isStack
  obtain ⟨describes, inside⟩ := described part List.mem_cons_self
  have othersDescribed : ∀ other ∈ others, other.Describes tree.nodes ∧ other.Inside tree.order :=
    fun other member => described other (List.mem_cons_of_mem _ member)
  rw [List.flatMap_cons] at ordered
  cases part with
  | leaf index tip =>
    have kept : Underway tree outline (visited ++ [index]) (others.map Outline.index) :=
      ⟨others, rfl, othersDescribed, by simpa [Outline.indices] using ordered⟩
    cases meets : tip.box.meets ray bound with
    | false => exact ⟨_, visit_missed describes meets _, kept⟩
    | true =>
      exact ⟨_, visit_leaf describes (inside tip List.mem_cons_self) meets _ found, kept⟩
  | inner index box left right =>
    obtain ⟨root, leftDescribes, rightDescribes⟩ := describes
    cases meets : box.meets ray bound with
    | false =>
      refine ⟨_, visit_missed root meets _, others, rfl, othersDescribed, ?_⟩
      -- Everything under the node is skipped.
      refine List.Sublist.trans ?_ ordered
      rw [List.append_assoc, Outline.indices, List.cons_append]
      exact ((List.sublist_append_right _ _).cons_cons index).append_left visited
    | true =>
      refine ⟨_, visit_inner root meets _ found, left :: right :: others, rfl, ?_, ?_⟩
      · intro other member
        obtain rfl | rfl | member := by simpa only [List.mem_cons] using member
        · exact ⟨leftDescribes, fun leaf inLeft => inside leaf (List.mem_append_left _ inLeft)⟩
        · exact ⟨rightDescribes, fun leaf inRight => inside leaf (List.mem_append_right _ inRight)⟩
        · exact othersDescribed other member
      · simpa [Outline.index, Outline.indices] using ordered

/-- **A traversal stays on its way.** -/
theorem Underway.traverses {outline : Outline S} {before visited : List Nat}
    {scratch last : Scratch} (underway : Underway tree outline before scratch.stack)
    (traverses : Traverses tree ray bound scratch visited last) :
    Underway tree outline (before ++ visited) last.stack := by
  induction traverses generalizing before with
  | none scratch => rwa [List.append_nil]
  | @more index rest visited found next last result further ih =>
    obtain ⟨other, sameResult, kept⟩ := underway.visit ray bound found
    obtain rfl := Except.ok.inj (result.symm.trans sameResult)
    rw [List.append_cons]
    exact ih kept

/-- What every traversal from the root has visited, and that it can go on. -/
theorem visited_of_traverses {outline : Outline S} (ofTree : outline.OfTree tree)
    {scratch last : Scratch} {visited : List Nat}
    (traverses : Traverses tree ray bound scratch.restart visited last) :
    visited.Nodup ∧ (∀ index ∈ visited, index < tree.nodes.size) ∧
      visited.length ≤ tree.nodes.size ∧
      ∀ index rest, last.stack = index :: rest →
        ∃ next, visit tree ray bound index ⟨rest, last.candidates⟩ = .ok next := by
  have underway := (underway_start ofTree scratch).traverses traverses
  rw [List.nil_append] at underway
  have sublist : visited.Sublist outline.indices := by
    obtain ⟨parts, -, -, ordered⟩ := underway
    exact (List.sublist_append_left _ _).trans ordered
  refine ⟨?_, ?_, ?_, ?_⟩
  · exact (ofTree.indices.nodup_iff.mpr List.nodup_range).sublist sublist
  · exact fun index member => ofTree.mem_indices.mp (sublist.subset member)
  · have length := ofTree.indices.length_eq
    rw [List.length_range] at length
    exact sublist.length_le.trans_eq length
  · intro index rest isStack
    rw [isStack] at underway
    obtain ⟨next, result, -⟩ := underway.visit ray bound last.candidates
    exact ⟨next, result⟩

end Traversal

/-- **Both loops over a stack take linear work.** A construction takes as many steps as its
tree has nodes, neither more nor less, and none of them faults; these are fewer than twice as
many as there are triangles. A traversal for any ray and any bound visits a node of the array
once at most. It never reads a node or a range of triangles that is not there: as long as its
stack is not empty the next visit succeeds. So it comes to an end, and what is collected is
what it has found then. -/
theorem linear_work (positions : Array (Vec3 S)) (faces : Array Face) :
    let items := (itemsOf positions faces).toArray
    let start := starting faces.size
    let tree := build positions faces
    Takes items tree.nodes.size start ⟨tree, []⟩ ∧
    (∀ count progress, Takes items count start progress →
      count ≤ tree.nodes.size ∧ (∃ next, advance items progress = .ok next) ∧
        (advance items progress = .ok none ↔ count = tree.nodes.size)) ∧
    (1 ≤ faces.size → tree.nodes.size ≤ 2 * faces.size - 1) ∧
    ∀ (ray : Ray S) (bound : S) (scratch : Scratch),
      (∀ visited state, Traverses tree ray bound scratch.restart visited state →
        visited.Nodup ∧ (∀ index ∈ visited, index < tree.nodes.size) ∧
        visited.length ≤ tree.nodes.size ∧
        ∀ index rest, state.stack = index :: rest →
          ∃ next, visit tree ray bound index ⟨rest, state.candidates⟩ = .ok next) ∧
      ∃ visited found, Traverses tree ray bound scratch.restart visited ⟨[], found⟩ ∧
        collect tree ray bound scratch = .ok ⟨[], found⟩ := by
  intro items start tree
  have ofTree := ofTree_outline positions faces
  refine ⟨?_, ?_, ?_, ?_⟩
  · obtain ⟨count, takes⟩ := exists_takes_of_reaches (reaches_build positions faces)
    have all := (steps_of_takes takes).2.mp (advance_eq_none_iff.mpr rfl)
    exact all ▸ takes
  · intro count progress takes
    obtain ⟨atMost, done⟩ := steps_of_takes takes
    have sound := sound_of_construction positions faces takes.reaches
    rw [← size_itemsOf positions faces] at sound
    exact ⟨atMost, sound.exists_next (inPlace_itemsOf positions faces), done⟩
  · intro several
    have size := size_nodes_build_le positions faces
    rwa [max_eq_right (by omega)] at size
  · intro ray bound scratch
    refine ⟨fun visited state => visited_of_traverses ofTree, ?_⟩
    have collected := collect_eq_reached ofTree ray bound scratch
    obtain ⟨visited, traverses⟩ := exists_traverses collected
    exact ⟨visited, _, traverses, collected⟩

end RayTracer.Bvh
