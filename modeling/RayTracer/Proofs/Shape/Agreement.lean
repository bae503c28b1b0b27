import RayTracer.Shape
import RayTracer.Proofs.Bvh.Traversal
import RayTracer.Proofs.Mesh.Agreement
import RayTracer.Proofs.Sphere

/-!
# The two queries of a shape agree

A shape is asked for its nearest hit, or only for whether there is one. Both
queries agree, and a reported hit is in range (`Shape.agree`). A shape must be well
formed for that: the vertex indices of a mesh are in range, and a tree is that of
its mesh. The values of the scalars do not matter.
-/

set_option autoImplicit false

namespace RayTracer

variable {S : Type} [Scalar S]

/-! ## Trees -/

/-- A tree belongs to the present mesh. Making an accelerated mesh and building its tree
keep that; an edit of the mesh makes it anew, without a tree. -/
def AcceleratedMesh.Current (accelerated : AcceleratedMesh S) : Prop :=
  ∀ tree, accelerated.tree = some tree →
    tree = .build accelerated.mesh.positions accelerated.mesh.faces

theorem AcceleratedMesh.current_ofMesh (mesh : Mesh S) : (ofMesh mesh).Current :=
  fun _ absent => nomatch absent

theorem AcceleratedMesh.current_buildTree (accelerated : AcceleratedMesh S) :
    accelerated.buildTree.Current :=
  fun _ present => (Option.some.inj present).symm

/-- The candidates of an accelerated mesh are triangles of the mesh. -/
theorem AcceleratedMesh.Current.exists_candidates {accelerated : AcceleratedMesh S}
    (current : accelerated.Current) (ray : Ray S) (bound : S) :
    ∃ found, accelerated.candidates ray bound = .ok found ∧
      ∀ triangle ∈ found, triangle < accelerated.mesh.faces.size := by
  unfold candidates
  cases present : accelerated.tree with
  | none => exact ⟨[], rfl, fun _ member => nomatch member⟩
  | some tree =>
    obtain rfl := current tree present
    obtain ⟨found, collected, inRange⟩ := Bvh.exists_candidates_lt accelerated.mesh.positions
      accelerated.mesh.faces ray bound
    exact ⟨found.toList, congrArg (· >>= fun found => pure found.toList) collected, inRange⟩

/-! ## Shapes -/

namespace Shape

/-- The vertex indices of a mesh are in range, and a tree is that of its mesh. -/
def WellFormed : Shape S → Prop
  | .mesh surface => surface.Indexed
  | .accelerated surface => surface.mesh.Indexed ∧ surface.Current
  | _ => True

/-- The vertex indices of a mesh are in range. -/
def Indexed : Shape S → Prop
  | .mesh surface => surface.Indexed
  | .accelerated surface => surface.mesh.Indexed
  | _ => True

theorem wellFormed_prepare {shape : Shape S} (indexed : shape.Indexed) :
    shape.prepare.WellFormed := by
  cases shape with
  | accelerated surface => exact ⟨indexed, surface.current_buildTree⟩
  | mesh surface => exact indexed
  | _ => trivial

/-- A hit that is looked for in range is in range. -/
theorem agree_of_inRange {bound : S} {found : Option (SurfaceHit S)}
    (inRange : ∀ hit, found = some hit → InRange hit.lambda bound) :
    Agree SurfaceHit.lambda bound (.ok found) (.ok found.isSome) :=
  ⟨found, rfl, rfl, inRange⟩

theorem inRange_of_sphere {sphere : Sphere S} {ray : Ray S} {bound : S} {hit : SurfaceHit S}
    (found : sphere.closest ray bound = some hit) : InRange hit.lambda bound := by
  obtain ⟨lambda, isRoot, rfl⟩ := Option.map_eq_some_iff.mp found
  rw [Sphere.root_eq] at isRoot
  obtain ⟨roots, -, isFirst⟩ := Option.bind_eq_some_iff.mp isRoot
  exact roots.inRange_of_first isFirst

theorem inRange_of_plane {plane : Plane S} {ray : Ray S} {bound : S} {hit : SurfaceHit S}
    (found : plane.closest ray bound = some hit) : InRange hit.lambda bound := by
  obtain ⟨lambda, crosses, rfl⟩ := Option.map_eq_some_iff.mp found
  exact of_decide_eq_true (Option.filter_eq_some_iff.mp crosses).2

theorem inRange_of_triangle {triangle : Triangle S} {ray : Ray S} {bound : S} {hit : SurfaceHit S}
    (found : triangle.closest ray bound = some hit) : InRange hit.lambda bound := by
  obtain ⟨triangleHit, met, rfl⟩ := Option.map_eq_some_iff.mp found
  exact (Corners.meet_eq_some_iff.mp met).2

/-- **The two queries of a well-formed shape agree.** -/
theorem agree [IsTrans S (· < ·)] {shape : Shape S} (wellFormed : shape.WellFormed) (ray : Ray S)
    (bound : S) :
    Agree SurfaceHit.lambda bound (shape.closest ray bound) (shape.any ray bound) := by
  cases shape with
  | sphere surface => exact agree_of_inRange fun hit => inRange_of_sphere
  | plane surface => exact agree_of_inRange fun hit => inRange_of_plane
  | triangle surface =>
    have same : (surface.closest ray bound).isSome = surface.any ray bound := Option.isSome_map
    have answers := agree_of_inRange fun hit (found : surface.closest ray bound = some hit) =>
      inRange_of_triangle found
    rwa [same] at answers
  | mesh surface =>
    exact Mesh.agree_among wellFormed ray bound fun triangle member => List.mem_range.mp member
  | accelerated surface =>
    obtain ⟨indexed, current⟩ := wellFormed
    obtain ⟨found, collected, inRange⟩ := current.exists_candidates ray bound
    have answers := Mesh.agree_among indexed ray bound inRange
    simp only [closest, any, AcceleratedMesh.closest, AcceleratedMesh.any, collected]
    exact answers

end Shape

end RayTracer
