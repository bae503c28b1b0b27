import RayTracer.AcceleratedMesh
import RayTracer.Proofs.Bvh.Conservative
import RayTracer.Proofs.Mesh.Nearest

/-!
# An accelerated mesh answers like its mesh

A mesh with a tree of boxes tests only the candidates of the tree, in the order
of the leaves. In exact arithmetic these include every triangle that is hit, as
long as no component of the ray's direction is so small that the slab test takes
it for zero although it is not (`AcceleratedMesh.exists_candidates`). Then both
searches find a hit or none does, at the same parameter, and the triangle found
is nearest among all triangles. The whole surface hit is the same when only one
triangle is nearest; of several, each search reports the first in its own order.
-/

set_option autoImplicit false

namespace RayTracer

open Exact

/-- Every component of a direction is zero or not below the tolerance. -/
def Ray.IsOrdinary (ray : Ray Exact) : Prop :=
  ∀ axis : Axis, ray.direction.get axis = 0 ∨ epsilon ≤ Scalar.abs (ray.direction.get axis)

namespace Mesh

variable {mesh : Mesh Exact} {ray : Ray Exact} {bound : Exact}

/-- A ray hits a triangle no later than any other triangle of the mesh. -/
def Attains (mesh : Mesh Exact) (ray : Ray Exact) (bound : Exact) (triangle : Nat) : Prop :=
  ∃ hit, mesh.Hits ray bound triangle hit ∧
    ∀ other otherHit, mesh.Hits ray bound other otherHit → hit.lambda ≤ otherHit.lambda

theorem lt_size_of_mem_triangles {triangle : Nat} (member : triangle ∈ mesh.triangles) :
    triangle < mesh.faces.size :=
  List.mem_range.mp member

theorem Hits.mem_triangles {triangle : Nat} {hit : TriangleHit Exact}
    (isHit : mesh.Hits ray bound triangle hit) : triangle ∈ mesh.triangles :=
  List.mem_range.mpr isHit.lt_size

/-- A nearest triangle of a part that has every triangle that is hit is nearest of the whole. -/
theorem IsNearest.extend {part whole : List Nat} {result : Option (Nearest Exact)}
    (isNearest : mesh.IsNearest ray bound part result) (subset : part ⊆ whole)
    (complete : ∀ triangle hit, mesh.Hits ray bound triangle hit → triangle ∈ part) :
    mesh.IsNearest ray bound whole result := by
  cases result with
  | none =>
    intro triangle _ hit isHit
    exact isNearest triangle (complete triangle hit isHit) hit isHit
  | some nearest =>
    obtain ⟨member, isHit, least⟩ := isNearest
    exact ⟨subset member, isHit, fun triangle _ hit isHit =>
      least triangle (complete triangle hit isHit) hit isHit⟩

theorem IsNearest.attains {nearest : Nearest Exact}
    (isNearest : mesh.IsNearest ray bound mesh.triangles (some nearest)) :
    mesh.Attains ray bound nearest.triangle :=
  ⟨nearest.hit, isNearest.2.1, fun other otherHit isHit =>
    isNearest.2.2 other isHit.mem_triangles otherHit isHit⟩

/-- Two searches find a nearest triangle, or none does. -/
theorem IsNearest.both {triangles : List Nat} {first second : Option (Nearest Exact)}
    (isNearest : mesh.IsNearest ray bound triangles first)
    (other : mesh.IsNearest ray bound triangles second) :
    first = none ∧ second = none ∨
      ∃ nearest otherNearest, first = some nearest ∧ second = some otherNearest := by
  cases first with
  | none =>
    cases second with
    | none => exact .inl ⟨rfl, rfl⟩
    | some nearest => exact absurd other.2.1 (isNearest _ other.1 _)
  | some nearest =>
    cases second with
    | none => exact absurd isNearest.2.1 (other _ isNearest.1 _)
    | some otherNearest => exact .inr ⟨nearest, otherNearest, rfl, rfl⟩

/-- Two nearest hits have the same parameter. -/
theorem IsNearest.lambda_eq {triangles : List Nat} {first second : Option (Nearest Exact)}
    (isNearest : mesh.IsNearest ray bound triangles first)
    (other : mesh.IsNearest ray bound triangles second) :
    (first.map fun nearest => nearest.hit.lambda) =
      second.map fun nearest => nearest.hit.lambda := by
  obtain ⟨rfl, rfl⟩ | ⟨nearest, otherNearest, rfl, rfl⟩ := isNearest.both other
  · rfl
  · exact congrArg some (Exact.le_antisymm (isNearest.2.2 _ other.1 _ other.2.1)
      (other.2.2 _ isNearest.1 _ isNearest.2.1))

/-- When one triangle alone is nearest, every search finds it. -/
theorem IsNearest.unique {first second : Option (Nearest Exact)}
    (isNearest : mesh.IsNearest ray bound mesh.triangles first)
    (other : mesh.IsNearest ray bound mesh.triangles second)
    (alone : ∃! triangle, mesh.Attains ray bound triangle) : first = second := by
  obtain ⟨rfl, rfl⟩ | ⟨⟨triangle, hit⟩, ⟨otherTriangle, otherHit⟩, rfl, rfl⟩ :=
    isNearest.both other
  · rfl
  · obtain rfl : triangle = otherTriangle := alone.unique isNearest.attains other.attains
    obtain rfl : hit = otherHit := isNearest.2.1.unique other.2.1
    rfl

end Mesh

namespace Bvh

/-- Every triangle that an ordinary ray hits is a candidate. -/
theorem Outline.OfTree.mem_met_of_ordinary {mesh : Mesh Exact}
    (finite : FiniteVertices mesh.positions) {outline : Outline Exact}
    (ofTree : outline.OfTree (build mesh.positions mesh.faces)) {ray : Ray Exact}
    (rayFinite : ray.IsFinite) (ordinary : ray.IsOrdinary) {bound : Exact} {triangle : Nat}
    {hit : TriangleHit Exact} (isHit : mesh.Hits ray bound triangle hit) :
    triangle ∈ outline.met ray bound (build mesh.positions mesh.faces).order := by
  obtain ⟨numbers, rfl⟩ := rayFinite.eq_ofReal
  obtain ⟨leaf, member, holds⟩ := ofTree.exists_leaf isHit.lt_size
  rw [ofTree.mem_met_iff member holds, ofTree.leaf_meets_iff_admits finite member holds isHit]
  obtain ⟨-, -, -, lambda, -, -, -, -, isLambda, -⟩ := Mesh.crosses_of_meet finite isHit
  apply ofTree.admits_of_close finite member holds isHit
  intro axis small
  obtain zero | large := ordinary axis
  · rw [zero, isLambda, zero_eq_real, real_mul_real, mul_zero, abs_real, boxMargin_eq_real,
      real_le_real]
    norm_num
  · exact absurd small (Exact.not_lt_of_le large)

end Bvh

/-! ## The two meshes -/

namespace AcceleratedMesh

variable {mesh : Mesh Exact} {ray : Ray Exact}

/-- The triangles that are tested are triangles of the mesh and include all that are hit. -/
theorem exists_candidates (finite : FiniteVertices mesh.positions) (rayFinite : ray.IsFinite)
    (ordinary : ray.IsOrdinary) (bound : Exact) :
    ∃ found, (ofMesh mesh).buildTree.candidates ray bound = .ok found ∧ found ⊆ mesh.triangles ∧
      ∀ triangle hit, mesh.Hits ray bound triangle hit → triangle ∈ found := by
  have ofTree := Bvh.ofTree_outline mesh.positions mesh.faces
  refine ⟨_, ?_, ?_, fun triangle hit isHit =>
    ofTree.mem_met_of_ordinary finite rayFinite ordinary isHit⟩
  · exact congrArg (· >>= fun candidates => pure candidates.toList)
      (ofTree.candidates_eq_met finite rayFinite bound)
  · intro triangle member
    have inOrder := (ofTree.met_sublist ray bound).subset member
    exact (Bvh.perm_order_build mesh.positions mesh.faces).subset inOrder

/-- **A mesh with a tree answers like the mesh without.** For finite vertices,
indices in range, an ordinary ray and any bound, no query faults. Both meshes are
hit or neither is, at the same parameter; the triangle that the search among the
candidates finds attains the least parameter of all triangles; and when one
triangle alone attains it, the surface hits are the same. -/
theorem closest_buildTree (finite : FiniteVertices mesh.positions) (indexed : mesh.Indexed)
    (rayFinite : ray.IsFinite) (ordinary : ray.IsOrdinary) (bound : Exact) :
    let accelerated := (ofMesh mesh).buildTree
    (∃ answer, mesh.any ray bound = .ok answer ∧ accelerated.any ray bound = .ok answer) ∧
    ∃ slow fast, mesh.closest ray bound = .ok slow ∧ accelerated.closest ray bound = .ok fast ∧
      slow.map SurfaceHit.lambda = fast.map SurfaceHit.lambda ∧
      (∀ surface, fast = some surface → ∃ found nearest,
        accelerated.candidates ray bound = .ok found ∧
        mesh.nearestAmong ray bound found = .ok (some nearest) ∧
        mesh.surfaceHit nearest.triangle nearest.hit = .ok surface ∧
        mesh.Attains ray bound nearest.triangle) ∧
      ((∃! triangle, mesh.Attains ray bound triangle) → slow = fast) := by
  intro accelerated
  obtain ⟨found, isFound, subset, complete⟩ :=
    exists_candidates finite rayFinite ordinary bound
  have allInRange : ∀ triangle ∈ mesh.triangles, triangle < mesh.faces.size :=
    fun _ => Mesh.lt_size_of_mem_triangles
  have foundInRange : ∀ triangle ∈ found, triangle < mesh.faces.size :=
    fun triangle member => allInRange triangle (subset member)
  constructor
  · obtain ⟨answer, answered, -⟩ := Mesh.exists_anyAmong indexed ray bound allInRange
    have same := Mesh.anyAmong_of_complete indexed allInRange subset complete
    refine ⟨answer, answered, ?_⟩
    rw [← answered, ← same]
    exact congrArg (· >>= mesh.anyAmong ray bound) isFound
  · obtain ⟨nearest, searched, isNearest⟩ :=
      Mesh.exists_nearestAmong indexed ray bound allInRange
    obtain ⟨picked, quickSearched, isPicked⟩ :=
      Mesh.exists_nearestAmong indexed ray bound foundInRange
    obtain ⟨slow, isSlow, slowLambda, -⟩ := Mesh.exists_closestAmong indexed searched isNearest
    obtain ⟨fast, isFast, fastLambda, fastSurface⟩ :=
      Mesh.exists_closestAmong indexed quickSearched isPicked
    have pickedOfAll := isPicked.extend subset complete
    refine ⟨slow, fast, isSlow, ?_, ?_, ?_, ?_⟩
    · rw [← isFast]
      exact congrArg (· >>= mesh.closestAmong ray bound) isFound
    · rw [slowLambda, fastLambda, isNearest.lambda_eq pickedOfAll]
    · intro surface isSurface
      obtain ⟨nearest, rfl, surfaceHit⟩ := fastSurface surface isSurface
      exact ⟨found, nearest, isFound, quickSearched, surfaceHit, pickedOfAll.attains⟩
    · intro alone
      obtain rfl := isNearest.unique pickedOfAll alone
      have same : mesh.closestAmong ray bound mesh.triangles =
          mesh.closestAmong ray bound found := by
        rw [Mesh.closestAmong, Mesh.closestAmong, searched, quickSearched]
      exact Except.ok.inj (isSlow.symm.trans (same.trans isFast))

/-- A ray straight at a distant triangle. -/
theorem closest_buildTree_distantTriangle :
    let accelerated := (ofMesh Bvh.distantTriangle).buildTree
    let ray := Ray.ofReal ⟨⟨5e-4, 0, 0⟩, ⟨0, 0, 1⟩⟩
    ray.IsOrdinary ∧ ∃ slow fast, Bvh.distantTriangle.closest ray infinity = .ok slow ∧
      accelerated.closest ray infinity = .ok fast ∧
      slow.map SurfaceHit.lambda = fast.map SurfaceHit.lambda := by
  intro accelerated ray
  have ordinary : ray.IsOrdinary := by
    intro axis
    cases axis with
    | x => exact .inl zero_eq_real.symm
    | y => exact .inl zero_eq_real.symm
    | z =>
      refine .inr (real_le_real.mpr ?_)
      norm_num
  obtain ⟨-, slow, fast, isSlow, isFast, sameLambda, -⟩ :=
    closest_buildTree Bvh.finite_distantTriangle Bvh.indexed_distantTriangle
      (Ray.isFinite_ofReal _) ordinary infinity
  exact ⟨ordinary, slow, fast, isSlow, isFast, sameLambda⟩

end AcceleratedMesh

end RayTracer
