import RayTracer.Proofs.Bvh.Outline

/-!
# Construction partitions the triangles

A construction works on one shared order of the triangles. Every state that it
reaches is sound (`Progress.Sound`): the tasks on the stack have nodes of their
own array to write, their ranges lie in the order and follow each other without
overlapping, and the order has every triangle once. So no step faults on the way,
every range of a task can be read, and a cut is strictly inside its range. One
step keeps this, hence every run does, and the last state of a run is the
complete tree.

Nothing is assumed of the scalars: costs that compare to nothing, infinite boxes
and vertex indices out of range change which tree is built but not that it is
one.
-/

set_option autoImplicit false

namespace RayTracer.Bvh

variable {S : Type} [Scalar S]

/-! ## Runs -/

section Runs

variable {items : Array (Item S)}

/-- One step of a construction leads from one state to another. -/
def Step (items : Array (Item S)) (before after : Progress S) : Prop :=
  advance items before = .ok (some after)

/-- Some steps of a construction lead from one state to another. -/
abbrev Reaches (items : Array (Item S)) : Progress S → Progress S → Prop :=
  Relation.ReflTransGen (Step items)

/-- A step takes a task off the stack. -/
theorem Step.exists_pending {before after : Progress S} (step : Step items before after) :
    ∃ task rest, before.pending = task :: rest := by
  cases pending : before.pending with
  | nil => cases (advance_eq_none_iff.mpr pending).symm.trans step
  | cons task rest => exact ⟨task, rest, rfl⟩

/-- A construction that completes runs to its tree. -/
theorem reaches_of_complete {progress : Progress S} {tree : Bvh S}
    (completed : complete items progress = .ok tree) : Reaches items progress ⟨tree, []⟩ := by
  induction progress using complete.induct items with
  | case1 progress fault faulted =>
    rw [complete] at completed
    split at completed
    · cases completed
    · rename_i done
      cases faulted.symm.trans done
    · rename_i advanced
      cases faulted.symm.trans advanced
  | case2 progress done =>
    obtain ⟨finished, pending⟩ := progress
    obtain rfl : pending = [] := advance_eq_none_iff.mp done
    obtain rfl := Except.ok.inj ((complete_of_done rfl).symm.trans completed)
    exact .refl
  | case3 progress next advanced ih =>
    rw [complete_of_advance advanced] at completed
    exact .head advanced (ih completed)

/-- A construction in a sound state does not fault. -/
theorem Progress.Sound.exists_next {progress : Progress S} (sound : progress.Sound items.size)
    (inPlace : InPlace items) : ∃ next, advance items progress = .ok next := by
  cases pending : progress.pending with
  | nil => exact ⟨none, advance_eq_none_iff.mpr pending⟩
  | cons task rest =>
    obtain ⟨next, advanced, -⟩ := sound.exists_advance inPlace pending
    exact ⟨some next, advanced⟩

/-- **One step of a construction keeps its state sound.** -/
theorem sound_of_step (inPlace : InPlace items) {before after : Progress S}
    (step : Step items before after) (sound : before.Sound items.size) :
    after.Sound items.size := by
  obtain ⟨task, rest, pending⟩ := step.exists_pending
  obtain ⟨next, advanced, nextSound⟩ := sound.exists_advance inPlace pending
  obtain rfl := Option.some.inj (Except.ok.inj (advanced.symm.trans step))
  exact nextSound

/-- **Every state that a construction reaches is sound.** -/
theorem sound_of_reaches (inPlace : InPlace items) {start progress : Progress S}
    (reaches : Reaches items start progress) (sound : start.Sound items.size) :
    progress.Sound items.size := by
  induction reaches with
  | refl => exact sound
  | tail _ step ih => exact sound_of_step inPlace step ih

end Runs

section Construction

variable (positions : Array (Vec3 S)) (faces : Array Face)

/-- Every state of the construction of a tree is sound. -/
theorem sound_of_construction {progress : Progress S}
    (reaches : Reaches (itemsOf positions faces).toArray (starting faces.size) progress) :
    progress.Sound faces.size := by
  have start : (starting faces.size : Progress S).Sound (itemsOf positions faces).toArray.size := by
    rw [size_itemsOf]
    exact sound_starting faces.size
  have sound := sound_of_reaches (inPlace_itemsOf positions faces) reaches start
  rwa [size_itemsOf] at sound

/-- The construction of a tree runs to that tree. -/
theorem reaches_build :
    Reaches (itemsOf positions faces).toArray (starting faces.size) ⟨build positions faces, []⟩ :=
  reaches_of_complete (construct_eq_build positions faces)

end Construction

/-! ## The complete tree -/

theorem perm_order_build (positions : Array (Vec3 S)) (faces : Array Face) :
    (build positions faces).order.toList.Perm (List.range faces.size) :=
  (sound_of_construction positions faces (reaches_build positions faces)).order

theorem size_order_build (positions : Array (Vec3 S)) (faces : Array Face) :
    (build positions faces).order.size = faces.size := by
  rw [← Array.length_toList, (perm_order_build positions faces).length_eq, List.length_range]

theorem nodup_order_build (positions : Array (Vec3 S)) (faces : Array Face) :
    (build positions faces).order.toList.Nodup :=
  (perm_order_build positions faces).nodup_iff.mpr List.nodup_range

theorem size_nodes_build_le (positions : Array (Vec3 S)) (faces : Array Face) :
    (build positions faces).nodes.size ≤ max 1 (2 * faces.size - 1) := by
  have cuts := cuts_grow_le (itemsOf positions faces)
  have one : (#[placeholder] : Array (Node S)).size = 1 := rfl
  rw [length_itemsOf] at cuts
  rw [build_eq_settle, settle, size_store, one]
  omega

/-- In lists that do not overlap, a value is counted at most once, by the list it is in. -/
theorem countP_mem_eq_count_flatMap {α : Type} {values : List α} {parts : α → List Nat}
    (nodup : (values.flatMap parts).Nodup) (number : Nat) :
    values.countP (fun value => number ∈ parts value) = (values.flatMap parts).count number := by
  induction values with
  | nil => rfl
  | cons value rest ih =>
    rw [List.flatMap_cons] at nodup
    rw [List.flatMap_cons, List.count_append, List.countP_cons, ih nodup.of_append_right,
      nodup.of_append_left.count, Nat.add_comm]
    simp only [decide_eq_true_eq]

/-- Every triangle lies in the range of one leaf. -/
theorem Outline.OfTree.countP_leaves {positions : Array (Vec3 S)} {faces : Array Face}
    {outline : Outline S} (ofTree : outline.OfTree (build positions faces)) {triangle : Nat}
    (inRange : triangle < faces.size) :
    outline.leaves.countP
      (fun leaf => triangle ∈ leaf.triangles (build positions faces).order) = 1 := by
  have whole := flatMap_triangles_of_tiles ofTree.tiles (build positions faces).order
  rw [Array.extract_size] at whole
  have nodup := nodup_order_build positions faces
  rw [countP_mem_eq_count_flatMap (whole ▸ nodup), whole, nodup.count, if_pos]
  exact (perm_order_build positions faces).mem_iff.mpr (List.mem_range.mpr inRange)

/-- **A construction works inside its arrays and ends in one tree whose leaves
partition the triangles.** It does not fault. In every state along its run the order
is a permutation of all triangles, and the ranges of the tasks follow each other
without overlapping. Every task has a node to write and a range inside the order,
which can be read; a cut leaves the range its items and is strictly inside it. In
the end every node but the root has one parent, which comes before it; the ranges
of the leaves from left to right go from the first triangle to the last without
gaps; and every triangle is in the range of exactly one leaf. There are too few
nodes for the index of one to exceed twice the number of triangles. -/
theorem build_partitions (positions : Array (Vec3 S)) (faces : Array Face) :
    let items := (itemsOf positions faces).toArray
    let start := starting faces.size
    let tree := build positions faces
    construct positions faces = .ok tree ∧
    (∀ progress, Reaches items start progress →
      (∃ next, advance items progress = .ok next) ∧
      progress.tree.order.toList.Perm (List.range faces.size) ∧
      (progress.pending.Pairwise fun upper lower => upper.stop ≤ lower.start) ∧
      ∀ task ∈ progress.pending, task.node < progress.tree.nodes.size ∧
        task.start ≤ task.stop ∧ task.stop ≤ progress.tree.order.size ∧
        ∃ range, readItems items progress.tree.order task.start task.stop = .ok range ∧
          range.map Item.index =
            (progress.tree.order.extract task.start task.stop).toList ∧
          ∀ placed position, plan range = .cut placed position →
            placed.Perm range ∧ 0 < position ∧ task.start + position < task.stop) ∧
    Reaches items start ⟨tree, []⟩ ∧
    tree.order.toList.Perm (List.range faces.size) ∧
    tree.nodes.size ≤ max 1 (2 * faces.size - 1) ∧
    ∃ outline : Outline S, outline.OfTree tree ∧
      (∀ child, 0 < child → child < tree.nodes.size → ∃! parent, IsChild tree.nodes parent child) ∧
      (∀ parent child, IsChild tree.nodes parent child →
        parent < child ∧ child < tree.nodes.size) ∧
      Tiles 0 outline.leaves faces.size ∧
      ∀ triangle < faces.size,
        outline.leaves.countP (fun leaf => triangle ∈ leaf.triangles tree.order) = 1 := by
  intro items start tree
  have ofTree := ofTree_outline positions faces
  refine ⟨construct_eq_build positions faces, ?_, reaches_build positions faces,
    perm_order_build positions faces, size_nodes_build_le positions faces, _, ofTree,
    ?_, ?_, ?_, ?_⟩
  · intro progress reaches
    have sound := sound_of_construction positions faces reaches
    have inPlace := inPlace_itemsOf positions faces
    have size := sound.order.length_eq
    rw [Array.length_toList, List.length_range] at size
    have itemsSound : progress.Sound items.size := by rwa [size_itemsOf]
    refine ⟨itemsSound.exists_next inPlace, sound.order, sound.apart, fun task member => ?_⟩
    obtain ⟨ordered, within⟩ := sound.inside task member
    obtain ⟨range, read⟩ := itemsSound.exists_readItems inPlace member
    have length := length_of_readItems read
    have areIndices := ((readItems_eq_ok_iff inPlace).mp read).2.1
    refine ⟨sound.allocated task member, ordered, size.symm ▸ within, range, read,
      areIndices.symm, fun placed position planned => ?_⟩
    have inside := inside_of_plan_eq_cut planned
    exact ⟨perm_of_plan_eq_cut planned, inside.1, by omega⟩
  · intro child positive allocated
    exact ofTree.existsUnique_parent positive allocated
  · intro parent child isChild
    exact ofTree.lt_of_isChild isChild
  · exact size_order_build positions faces ▸ ofTree.tiles
  · intro triangle inRange
    exact ofTree.countP_leaves inRange

end RayTracer.Bvh
