import RayTracer.Proofs.Bvh.Conservative
import RayTracer.Proofs.Mesh.Narrowing
import RayTracer.Proofs.Shape.Agreement

/-!
# The queries of a shape narrow

In exact arithmetic every well-formed shape answers a finite ray the same with a
smaller bound, up to a hit that is not before that bound (`Shape.narrows`). A mesh
also reports the same triangle (`Shape.closest_of_le`).

For planes and triangles the bound is only compared with one parameter. A sphere
that reports where the ray goes out, because it comes in out of range, could still
answer differently with a smaller bound; it does not because the ray comes in
first. The candidates of a tree change with the bound, but a triangle that is hit
is a candidate for every bound or for none: it is one exactly when the box of its
leaf admits the ray.
-/

set_option autoImplicit false

namespace RayTracer

open Exact

theorem narrows_of_pure {Hit : Type} {parameter : Hit → Exact} {search : Exact → Option Hit}
    (narrow : ∀ smaller larger, smaller ≤ larger →
      search smaller = cutOff parameter smaller (search larger)) :
    Narrows parameter fun bound => .ok (search bound) :=
  fun larger => ⟨search larger, rfl, fun smaller atMost =>
    congrArg Except.ok (narrow smaller larger atMost)⟩

/-! ## Meshes with a tree -/

namespace Bvh

open scoped Classical in
/-- The triangles of the leaves whose boxes admit a ray. -/
noncomputable def Outline.admitted (ray : Ray Exact) (order : Array Nat)
    (outline : Outline Exact) : List Nat :=
  (outline.leaves.filter fun leaf => leaf.box.Admits ray).flatMap fun leaf =>
    leaf.triangles order

/-- Among the candidates a search finds what it finds among the triangles of the
leaves that admit the ray, whatever the bound. -/
theorem Outline.OfTree.nearestAmong_met {mesh : Mesh Exact}
    (finite : FiniteVertices mesh.positions) (indexed : mesh.Indexed) {outline : Outline Exact}
    (ofTree : outline.OfTree (build mesh.positions mesh.faces)) (ray : Ray ℝ) (bound : Exact) :
    let order := (build mesh.positions mesh.faces).order
    mesh.nearestAmong (.ofReal ray) bound (outline.met (.ofReal ray) bound order) =
      mesh.nearestAmong (.ofReal ray) bound (outline.admitted (.ofReal ray) order) := by
  classical
  intro order
  refine Mesh.nearestAmong_congr indexed (fun leaf member triangle holds =>
    ofTree.lt_size_of_mem member holds) ?_
  intro leaf member triangle holds hit isHit
  refine Bool.eq_iff_iff.mpr (Iff.trans ?_ decide_eq_true_iff.symm)
  exact ofTree.leaf_meets_iff_admits finite member holds isHit

end Bvh

namespace AcceleratedMesh

/-- The nearest of the candidates that a ray hits. -/
def nearest {S : Type} [Scalar S] (accelerated : AcceleratedMesh S) (ray : Ray S) (bound : S) :
    Except OutOfRange (Option (Nearest S)) := do
  let candidates ← accelerated.candidates ray bound
  accelerated.mesh.nearestAmong ray bound candidates

/-- The search among the candidates fixes the hit of the mesh. -/
theorem closest_congr {S : Type} [Scalar S] {accelerated : AcceleratedMesh S} {ray : Ray S}
    {bound : S} {triangles : List Nat}
    (same : accelerated.nearest ray bound = accelerated.mesh.nearestAmong ray bound triangles) :
    accelerated.closest ray bound = accelerated.mesh.closestAmong ray bound triangles := by
  rw [Mesh.closestAmong, ← same, closest, nearest]
  cases accelerated.candidates ray bound <;> rfl

variable {accelerated : AcceleratedMesh Exact} (finite : FiniteVertices accelerated.mesh.positions)
  (indexed : accelerated.mesh.Indexed) (current : accelerated.Current) {ray : Ray Exact}
  (rayFinite : ray.IsFinite)
include finite indexed current rayFinite

/-- The candidates depend on the bound, but for every bound their search is a search among the
same triangles: those of the leaves that admit the ray. -/
theorem exists_tested : ∃ triangles, (∀ triangle ∈ triangles,
      triangle < accelerated.mesh.faces.size) ∧
    ∀ bound, accelerated.nearest ray bound = accelerated.mesh.nearestAmong ray bound triangles := by
  cases present : accelerated.tree with
  | none =>
    refine ⟨[], by simp, fun bound => ?_⟩
    rw [nearest, candidates, present]
    rfl
  | some tree =>
    obtain rfl := current tree present
    obtain ⟨numbers, rfl⟩ := rayFinite.eq_ofReal
    obtain ⟨outline, ofTree⟩ : ∃ outline : Bvh.Outline Exact,
        outline.OfTree (.build accelerated.mesh.positions accelerated.mesh.faces) :=
      ⟨_, Bvh.ofTree_outline _ _⟩
    refine ⟨outline.admitted (.ofReal numbers)
      (Bvh.build accelerated.mesh.positions accelerated.mesh.faces).order, ?_, fun bound => ?_⟩
    · intro triangle member
      obtain ⟨leaf, isAdmitted, holds⟩ := List.mem_flatMap.mp member
      exact ofTree.lt_size_of_mem (List.mem_of_mem_filter isAdmitted) holds
    · rw [← ofTree.nearestAmong_met finite indexed, nearest, candidates, present]
      exact congrArg (fun found => (found >>= fun found => pure found.toList) >>=
        accelerated.mesh.nearestAmong _ bound) (ofTree.candidates_eq_met finite rayFinite bound)

theorem narrows_nearest : Narrows Nearest.lambda (accelerated.nearest ray) := by
  obtain ⟨triangles, inRange, searched⟩ := exists_tested finite indexed current rayFinite
  rw [funext searched]
  exact Mesh.narrows_nearestAmong indexed ray inRange

theorem narrows : Narrows SurfaceHit.lambda (accelerated.closest ray) := by
  obtain ⟨triangles, inRange, searched⟩ := exists_tested finite indexed current rayFinite
  have search : accelerated.closest ray = fun bound =>
      accelerated.mesh.closestAmong ray bound triangles :=
    funext fun bound => closest_congr (searched bound)
  rw [search]
  exact Mesh.narrows_closestAmong indexed ray inRange

end AcceleratedMesh

/-! ## Spheres -/

/-- When one parameter is at most the other, a smaller bound leaves the first one
in range the same or leaves none. -/
theorem Roots.first_of_le {roots : Roots Exact} (ordered : roots.near ≤ roots.far)
    {smaller larger : Exact} (atMost : smaller ≤ larger) :
    roots.first smaller = cutOff id smaller (roots.first larger) := by
  have below {lambda : Exact} (inRange : InRange lambda smaller) : InRange lambda larger :=
    ⟨inRange.1, Exact.lt_of_lt_of_le inRange.2 atMost⟩
  by_cases near : InRange roots.near larger
  · rw [first, first, if_pos near]
    by_cases before : roots.near < smaller
    · rw [if_pos ⟨near.1, before⟩]
      exact (if_pos (decide_eq_true before)).symm
    -- What comes in beyond the smaller bound goes out beyond it too.
    · have beyond := (Exact.not_lt (Exact.le_iff.mp ordered).1 (Exact.le_iff.mp atMost).1).mp before
      have farBeyond := Exact.not_lt_of_le (Exact.le_trans beyond ordered)
      rw [if_neg fun inRange => before inRange.2, if_neg fun inRange => farBeyond inRange.2]
      exact (if_neg fun inRange => before (of_decide_eq_true inRange)).symm
  · rw [first, first, if_neg near, if_neg fun inRange => near (below inRange)]
    have onlyFar : (some roots.far).filter (fun far => InRange far smaller) =
        cutOff id smaller ((some roots.far).filter fun far => InRange far larger) :=
      filter_inRange_of_le atMost _
    simpa only [Option.filter_some, decide_eq_true_eq] using onlyFar

theorem Sphere.narrows {sphere : Sphere Exact} (finite : sphere.IsFinite) {ray : Ray Exact}
    (rayFinite : ray.IsFinite) :
    Narrows SurfaceHit.lambda fun bound => .ok (sphere.closest ray bound) := by
  refine narrows_of_pure fun smaller larger atMost => ?_
  rw [closest, closest, cutOff_map, root_eq, root_eq]
  cases isRoots : sphere.roots ray with
  | none => rfl
  | some roots =>
    exact congrArg _ (Roots.first_of_le (near_le_far finite rayFinite isRoots) atMost)

/-! ## Shapes -/

namespace Shape

/-- The coordinates of a sphere or a mesh are finite. Planes and single triangles
answer consistently whatever their coordinates are. -/
def HasFiniteCoordinates : Shape Exact → Prop
  | .sphere surface => surface.IsFinite
  | .mesh surface => FiniteVertices surface.positions
  | .accelerated surface => FiniteVertices surface.mesh.positions
  | _ => True

/-- **The query of a shape for the nearest hit narrows.** -/
theorem narrows {shape : Shape Exact} (wellFormed : shape.WellFormed)
    (finite : shape.HasFiniteCoordinates) {ray : Ray Exact} (rayFinite : ray.IsFinite) :
    Narrows SurfaceHit.lambda (shape.closest ray) := by
  cases shape with
  | sphere surface => exact Sphere.narrows finite rayFinite
  | plane surface =>
    refine narrows_of_pure fun smaller larger atMost => ?_
    rw [Plane.closest, Plane.closest, cutOff_map]
    exact congrArg _ (filter_inRange_of_le atMost _)
  | triangle surface =>
    refine narrows_of_pure fun smaller larger atMost => ?_
    rw [Triangle.closest, Triangle.closest, cutOff_map]
    exact congrArg _ (filter_inRange_of_le atMost _)
  | mesh surface =>
    exact Mesh.narrows_closestAmong wellFormed ray fun triangle member => List.mem_range.mp member
  | accelerated surface =>
    exact AcceleratedMesh.narrows finite wellFormed.1 wellFormed.2 rayFinite

/-- The triangle that a mesh reports, with the hit on it. Other shapes have no triangles to
choose from. -/
def winner {S : Type} [Scalar S] (shape : Shape S) (ray : Ray S) (bound : S) :
    Except OutOfRange (Option (Nearest S)) :=
  match shape with
  | .mesh surface => surface.nearestAmong ray bound surface.triangles
  | .accelerated surface => surface.nearest ray bound
  | _ => return none

/-- **The search of a mesh for the triangle it reports narrows.** -/
theorem narrows_winner {shape : Shape Exact} (wellFormed : shape.WellFormed)
    (finite : shape.HasFiniteCoordinates) {ray : Ray Exact} (rayFinite : ray.IsFinite) :
    Narrows Nearest.lambda (shape.winner ray) := by
  cases shape with
  | mesh surface =>
    exact Mesh.narrows_nearestAmong wellFormed ray fun triangle member => List.mem_range.mp member
  | accelerated surface =>
    exact AcceleratedMesh.narrows_nearest finite wellFormed.1 wellFormed.2 rayFinite
  | _ => exact narrows_of_pure fun smaller larger atMost => rfl

/-- **A bound only filters.** For every bound a shape answers without a fault, and with a
smaller bound it gives the same answer as long as the hit is before that bound, down to the
triangle it reports, and no hit otherwise. -/
theorem closest_of_le {shape : Shape Exact} (wellFormed : shape.WellFormed)
    (finite : shape.HasFiniteCoordinates) {ray : Ray Exact} (rayFinite : ray.IsFinite)
    {smaller larger : Exact} (atMost : smaller ≤ larger) :
    ∃ found winner, shape.closest ray larger = .ok found ∧
      shape.closest ray smaller = .ok (found.filter fun hit => hit.lambda < smaller) ∧
      shape.winner ray larger = .ok winner ∧
      shape.winner ray smaller =
        .ok (winner.filter fun nearest => nearest.hit.lambda < smaller) := by
  obtain ⟨found, answered, narrow⟩ := narrows wellFormed finite rayFinite larger
  obtain ⟨winner, searched, narrowWinner⟩ := narrows_winner wellFormed finite rayFinite larger
  exact ⟨found, winner, answered, narrow smaller atMost, searched, narrowWinner smaller atMost⟩

/-- A distant triangle, searched for without a bound and with one before it. -/
theorem closest_of_le_distantTriangle :
    let shape : Shape Exact := .accelerated (AcceleratedMesh.ofMesh Bvh.distantTriangle).buildTree
    let ray := Ray.ofReal ⟨⟨5e-4, 0, 0⟩, ⟨0, 0, 1⟩⟩
    shape.WellFormed ∧ shape.HasFiniteCoordinates ∧ ray.IsFinite ∧ real 5 ≤ infinity ∧
      ∃ found, shape.closest ray infinity = .ok found ∧
        shape.closest ray (real 5) = .ok (found.filter fun hit => hit.lambda < real 5) := by
  intro shape ray
  have wellFormed : shape.WellFormed :=
    ⟨Bvh.indexed_distantTriangle, AcceleratedMesh.current_buildTree _⟩
  have finite : shape.HasFiniteCoordinates := Bvh.finite_distantTriangle
  have rayFinite : ray.IsFinite := Ray.isFinite_ofReal _
  have atMost : real 5 ≤ infinity := trivial
  obtain ⟨found, -, answered, narrowed, -⟩ := closest_of_le wellFormed finite rayFinite atMost
  exact ⟨wellFormed, finite, rayFinite, atMost, found, answered, narrowed⟩

end Shape

end RayTracer
