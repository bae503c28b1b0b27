import RayTracer.Intersection
import RayTracer.Proofs.Mesh.Nearest
import RayTracer.Proofs.Shape.Figure

/-!
# Hits of finite shapes

A shape is finite when all its coordinates and normals are. A finite ray hits it at a
parameter that is a number, and the normal there is finite (`Shape.finite_of_closest`). So
everything about the intersection is finite (`Intersection.finite_ofHit`).
-/

set_option autoImplicit false

namespace RayTracer

open Exact

/-- The parameter of a hit is a number, and its normal is finite. -/
structure SurfaceHit.IsFinite (hit : SurfaceHit Exact) : Prop where
  lambda : ∃ value, hit.lambda = real value
  normal : hit.normal.IsFinite

/-- The ray, the position and the normal of an intersection are finite. -/
structure Intersection.IsFinite (hit : Intersection Exact) : Prop where
  ray : hit.ray.IsFinite
  position : hit.position.IsFinite
  normal : hit.normal.IsFinite

theorem Intersection.finite_ofHit {ray : Ray Exact} (rayFinite : ray.IsFinite) (number : Nat)
    {hit : SurfaceHit Exact} (finite : hit.IsFinite) : (ofHit ray number hit).IsFinite := by
  obtain ⟨value, isLambda⟩ := finite.lambda
  refine ⟨rayFinite, ?_, finite.normal⟩
  change (ray.origin + hit.lambda • ray.direction).IsFinite
  rw [isLambda]
  exact rayFinite.1.add (rayFinite.2.smul value)

/-! ## Meshes -/

/-- All corners of a triangle are finite. -/
def Corners.IsFinite (corners : Corners (Vec3 Exact)) : Prop :=
  corners.a.IsFinite ∧ corners.b.IsFinite ∧ corners.c.IsFinite

namespace Corners

theorem IsFinite.eq_ofReal {corners : Corners (Vec3 Exact)} (finite : corners.IsFinite) :
    ∃ numbers, corners = .ofReal numbers := by
  obtain ⟨⟨a, isA⟩, ⟨b, isB⟩, ⟨c, isC⟩⟩ := finite
  exact ⟨⟨a, b, c⟩, Corners.ext isA isB isC⟩

theorem IsFinite.areaVector {corners : Corners (Vec3 Exact)} (finite : corners.IsFinite) :
    corners.areaVector.IsFinite :=
  (finite.2.1.sub finite.1).cross (finite.2.2.sub finite.1)

theorem IsFinite.interpolate {corners : Corners (Vec3 Exact)} (finite : corners.IsFinite)
    {weights : Vec3 Exact} (weightsFinite : weights.IsFinite) :
    (corners.interpolate weights).IsFinite := by
  obtain ⟨numbers, rfl⟩ := weightsFinite
  exact ((finite.1.smul numbers.x).add (finite.2.1.smul numbers.y)).add (finite.2.2.smul numbers.z)

/-- A finite ray hits a finite triangle at a number, with numbers for weights. -/
theorem IsFinite.meet {corners : Corners (Vec3 Exact)} (finite : corners.IsFinite) {ray : Ray Exact}
    (rayFinite : ray.IsFinite) {bound : Exact} {hit : TriangleHit Exact}
    (found : corners.meet ray bound = some hit) :
    (∃ value, hit.lambda = real value) ∧ hit.weights.IsFinite := by
  obtain ⟨numbers, rfl⟩ := finite.eq_ofReal
  obtain ⟨line, rfl⟩ := rayFinite.eq_ofReal
  obtain ⟨lambda, second, third, rfl, -⟩ := crosses_of_meet found
  exact ⟨⟨lambda, rfl⟩, ⟨⟨_, second, third⟩, rfl⟩⟩

end Corners

namespace Mesh

/-- The vertices of a mesh and their normals are finite. -/
structure IsFinite (mesh : Mesh Exact) : Prop where
  positions : FiniteVertices mesh.positions
  normals : FiniteVertices mesh.normals

theorem finite_of_gather {values : Array (Vec3 Exact)} (finite : FiniteVertices values)
    {face : Face} {corners : Corners (Vec3 Exact)} (gathered : gather values face = .ok corners) :
    corners.IsFinite := by
  obtain ⟨isA, isB, isC⟩ := gather_eq_ok_iff.mp gathered
  exact ⟨finite _ (Array.mem_of_getElem? isA), finite _ (Array.mem_of_getElem? isB),
    finite _ (Array.mem_of_getElem? isC)⟩

variable {mesh : Mesh Exact}

theorem IsFinite.corners (finite : mesh.IsFinite) {triangle : Nat} {corners : Corners (Vec3 Exact)}
    (hasCorners : mesh.corners triangle = .ok corners) : corners.IsFinite := by
  obtain ⟨face, -, gathered⟩ := corners_eq_ok_iff.mp hasCorners
  exact finite_of_gather finite.positions gathered

theorem IsFinite.normalAt (finite : mesh.IsFinite) {triangle : Nat} {weights : Vec3 Exact}
    (weightsFinite : weights.IsFinite) {normal : Vec3 Exact}
    (isNormal : mesh.normalAt triangle weights = .ok normal) : normal.IsFinite := by
  rw [Mesh.normalAt] at isNormal
  split at isNormal
  · obtain ⟨face, -, isNormal⟩ := exists_of_bind_eq_ok isNormal
    obtain ⟨normals, gathered, isNormal⟩ := exists_of_bind_eq_ok isNormal
    obtain rfl := Except.ok.inj isNormal
    exact ((finite_of_gather finite.normals gathered).interpolate weightsFinite).unit
  · obtain ⟨corners, hasCorners, isNormal⟩ := exists_of_bind_eq_ok isNormal
    obtain rfl := Except.ok.inj isNormal
    exact (finite.corners hasCorners).areaVector.unit

/-- A surface hit has the parameter of the hit and the normal there. -/
theorem of_surfaceHit {S : Type} [Scalar S] {mesh : Mesh S} {triangle : Nat} {hit : TriangleHit S}
    {surface : SurfaceHit S} (isSurface : mesh.surfaceHit triangle hit = .ok surface) :
    surface.lambda = hit.lambda ∧ mesh.normalAt triangle hit.weights = .ok surface.normal := by
  obtain ⟨normal, isNormal, isSurface⟩ := exists_of_bind_eq_ok isSurface
  obtain ⟨uvw, -, isSurface⟩ := exists_of_bind_eq_ok isSurface
  obtain rfl := Except.ok.inj isSurface
  exact ⟨rfl, isNormal⟩

theorem IsFinite.surfaceHit (finite : mesh.IsFinite) {triangle : Nat} {hit : TriangleHit Exact}
    (isNumber : ∃ value, hit.lambda = real value) (weightsFinite : hit.weights.IsFinite)
    {surface : SurfaceHit Exact} (isSurface : mesh.surfaceHit triangle hit = .ok surface) :
    surface.IsFinite := by
  obtain ⟨isLambda, isNormal⟩ := of_surfaceHit isSurface
  exact ⟨isLambda ▸ isNumber, finite.normalAt weightsFinite isNormal⟩

/-- What one step of a search for the nearest triangle finds was found before, or is a hit
before the bound that remains. -/
theorem hits_of_closer {S : Type} [Scalar S] {mesh : Mesh S} {ray : Ray S} {bound : S}
    {nearest next : Option (Nearest S)} {triangle : Nat}
    (stepped : mesh.closer ray bound nearest triangle = .ok next) :
    next = nearest ∨ ∃ hit, next = some ⟨triangle, hit⟩ ∧
      mesh.Hits ray (remainingBound bound nearest) triangle hit := by
  obtain ⟨found, met, isNext⟩ := exists_of_bind_eq_ok stepped
  cases found with
  | none => exact .inl (Except.ok.inj isNext).symm
  | some hit => exact .inr ⟨hit, (Except.ok.inj isNext).symm, met⟩

/-- What a search for the nearest triangle finds is a hit before some bound. -/
theorem exists_hits_of_foldlM {S : Type} [Scalar S] {mesh : Mesh S} {ray : Ray S} {bound : S}
    {triangles : List Nat} {start result : Option (Nearest S)}
    (earlier : ∀ nearest ∈ start, ∃ before, mesh.Hits ray before nearest.triangle nearest.hit)
    (searched : triangles.foldlM (mesh.closer ray bound) start = .ok result) :
    ∀ nearest ∈ result, ∃ before, mesh.Hits ray before nearest.triangle nearest.hit := by
  induction triangles generalizing start with
  | nil =>
    cases searched
    exact earlier
  | cons triangle rest ih =>
    obtain ⟨next, stepped, searched⟩ := exists_of_bind_eq_ok searched
    refine ih ?_ searched
    obtain rfl | ⟨hit, rfl, isHit⟩ := hits_of_closer stepped
    · exact earlier
    · intro nearest isNext
      cases isNext
      exact ⟨_, isHit⟩

/-- A hit that is reported is that of a triangle the search found. -/
theorem exists_nearest_of_closestAmong {S : Type} [Scalar S] {mesh : Mesh S} {ray : Ray S}
    {bound : S} {triangles : List Nat} {surface : SurfaceHit S}
    (found : mesh.closestAmong ray bound triangles = .ok (some surface)) :
    ∃ nearest, mesh.nearestAmong ray bound triangles = .ok (some nearest) ∧
      mesh.surfaceHit nearest.triangle nearest.hit = .ok surface ∧
      ∃ before, mesh.Hits ray before nearest.triangle nearest.hit := by
  obtain ⟨result, searched, found⟩ := exists_of_bind_eq_ok found
  cases result with
  | none => cases found
  | some nearest =>
    obtain ⟨_, isSurface, same⟩ := exists_of_bind_eq_ok found
    obtain rfl := Option.some.inj (Except.ok.inj same)
    exact ⟨nearest, searched, isSurface, exists_hits_of_foldlM (by simp) searched nearest rfl⟩

theorem IsFinite.closestAmong (finite : mesh.IsFinite) {ray : Ray Exact} (rayFinite : ray.IsFinite)
    {bound : Exact} {triangles : List Nat} {surface : SurfaceHit Exact}
    (found : mesh.closestAmong ray bound triangles = .ok (some surface)) : surface.IsFinite := by
  obtain ⟨nearest, -, isSurface, before, isHit⟩ := exists_nearest_of_closestAmong found
  obtain ⟨corners, hasCorners, met⟩ := exists_corners_of_meet isHit
  obtain ⟨isNumber, weightsFinite⟩ := (finite.corners hasCorners).meet rayFinite met
  exact finite.surfaceHit isNumber weightsFinite isSurface

end Mesh

/-! ## Shapes -/

namespace Shape

/-- All coordinates and normals of a shape are finite. -/
def IsFinite : Shape Exact → Prop
  | .sphere surface => surface.IsFinite
  | .plane surface => surface.point.IsFinite ∧ surface.normal.IsFinite
  | .triangle surface => surface.corners.IsFinite ∧ surface.normal.IsFinite
  | .mesh surface => surface.IsFinite
  | .accelerated surface => surface.mesh.IsFinite

/-- **A finite ray hits a finite shape at a number, with a finite normal.** -/
theorem finite_of_closest {shape : Shape Exact} (finite : shape.IsFinite) {ray : Ray Exact}
    (rayFinite : ray.IsFinite) {bound : Exact} {hit : SurfaceHit Exact}
    (found : shape.closest ray bound = .ok (some hit)) : hit.IsFinite := by
  cases shape with
  | sphere surface =>
    obtain ⟨middle, size⟩ := surface
    obtain ⟨⟨centre, rfl⟩, radius, rfl⟩ := finite
    obtain ⟨line, rfl⟩ := rayFinite.eq_ofReal
    obtain ⟨root, isRoot, rfl⟩ := Option.map_eq_some_iff.mp (Except.ok.inj found)
    obtain ⟨lambda, rfl, -⟩ := Sphere.onSurface_of_root isRoot
    exact ⟨⟨lambda, rfl⟩, ((Vec3.isFinite_ofReal (line.follow lambda)).sub
      (Vec3.isFinite_ofReal centre)).unit⟩
  | plane surface =>
    obtain ⟨through, across⟩ := surface
    obtain ⟨⟨point, rfl⟩, ⟨normal, rfl⟩⟩ := finite
    obtain ⟨line, rfl⟩ := rayFinite.eq_ofReal
    obtain ⟨root, isRoot, rfl⟩ := Option.map_eq_some_iff.mp (Except.ok.inj found)
    obtain ⟨-, rfl⟩ := Figure.crossing_plane_eq_some_iff.mp (Option.filter_eq_some_iff.mp isRoot).1
    exact ⟨⟨_, rfl⟩, Vec3.isFinite_ofReal normal⟩
  | triangle surface =>
    obtain ⟨cornersFinite, normalFinite⟩ := finite
    obtain ⟨triangleHit, met, rfl⟩ := Option.map_eq_some_iff.mp (Except.ok.inj found)
    refine ⟨(cornersFinite.meet rayFinite met).1, ?_⟩
    change (surface.facingNormal ray.direction).IsFinite
    rw [Triangle.facingNormal]
    split
    · exact normalFinite.neg
    · exact normalFinite
  | mesh surface => exact Mesh.IsFinite.closestAmong finite rayFinite found
  | accelerated surface =>
    obtain ⟨candidates, -, found⟩ := exists_of_bind_eq_ok found
    exact Mesh.IsFinite.closestAmong finite rayFinite found

end Shape

end RayTracer
