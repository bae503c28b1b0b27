import RayTracer.Proofs.Mesh.Triangles

/-!
# Searching for the nearest triangle

A search goes through its triangles once and takes the parameter of the nearest
hit so far for the bound on the triangles that remain. In exact arithmetic every
step keeps the hit with the least parameter among the triangles seen so far
(`IsNearest.step`), so the search finds a nearest triangle or there is none to
find (`exists_nearestAmong`). The search for any hit stops at the first and
answers whether there is one.

Nothing faults as long as all vertex indices are in range.
-/

set_option autoImplicit false

namespace RayTracer

open Exact

theorem Corners.meet_eq_some_iff {S : Type} [Scalar S] {corners : Corners (Vec3 S)} {ray : Ray S}
    {bound : S} {hit : TriangleHit S} :
    corners.meet ray bound = some hit ↔
      corners.crossing ray = some hit ∧ InRange hit.lambda bound := by
  rw [meet, Option.filter_eq_some_iff, decide_eq_true_iff]

namespace Mesh

/-! ## Any hit -/

section Any

variable {S : Type} [Scalar S] {mesh : Mesh S}

/-- A ray hits a triangle of a mesh before a bound. -/
def Hits (mesh : Mesh S) (ray : Ray S) (bound : S) (triangle : Nat) (hit : TriangleHit S) : Prop :=
  mesh.meet triangle ray bound = .ok (some hit)

theorem Hits.unique {ray : Ray S} {bound : S} {triangle : Nat} {first second : TriangleHit S}
    (isHit : mesh.Hits ray bound triangle first) (other : mesh.Hits ray bound triangle second) :
    first = second :=
  Option.some.inj (Except.ok.inj (isHit.symm.trans other))

theorem Hits.inRange {ray : Ray S} {bound : S} {triangle : Nat} {hit : TriangleHit S}
    (isHit : mesh.Hits ray bound triangle hit) : InRange hit.lambda bound := by
  obtain ⟨corners, -, found⟩ := exists_corners_of_meet isHit
  exact (Corners.meet_eq_some_iff.mp found).2

theorem Hits.lt_size {ray : Ray S} {bound : S} {triangle : Nat} {hit : TriangleHit S}
    (isHit : mesh.Hits ray bound triangle hit) : triangle < mesh.faces.size := by
  obtain ⟨corners, hasCorners, -⟩ := exists_corners_of_meet isHit
  exact lt_of_corners hasCorners

/-- A bound matters only for whether the parameter of the hit is below it. -/
theorem Hits.of_inRange {ray : Ray S} {bound other : S} {triangle : Nat} {hit : TriangleHit S}
    (isHit : mesh.Hits ray bound triangle hit) (inRange : InRange hit.lambda other) :
    mesh.Hits ray other triangle hit := by
  obtain ⟨corners, hasCorners, found⟩ := exists_corners_of_meet isHit
  rw [Hits, meet_of_corners hasCorners]
  exact congrArg Except.ok
    (Corners.meet_eq_some_iff.mpr ⟨(Corners.meet_eq_some_iff.mp found).1, inRange⟩)

/-- The search for any hit answers whether one of the triangles is hit. -/
theorem exists_anyAmong (indexed : mesh.Indexed) (ray : Ray S) (bound : S)
    {triangles : List Nat} (inRange : ∀ triangle ∈ triangles, triangle < mesh.faces.size) :
    ∃ answer, mesh.anyAmong ray bound triangles = .ok answer ∧
      (answer = true ↔ ∃ triangle ∈ triangles, ∃ hit, mesh.Hits ray bound triangle hit) := by
  induction triangles with
  | nil => exact ⟨false, rfl, by simp⟩
  | cons triangle rest ih =>
    obtain ⟨result, met⟩ := indexed.exists_meet (inRange triangle List.mem_cons_self) ray bound
    cases result with
    | some hit =>
      refine ⟨true, ?_, iff_of_true rfl ⟨triangle, List.mem_cons_self, hit, met⟩⟩
      rw [anyAmong, met]
      rfl
    | none =>
      obtain ⟨answer, answered, correct⟩ :=
        ih fun other member => inRange other (List.mem_cons_of_mem _ member)
      refine ⟨answer, ?_, correct.trans ⟨?_, ?_⟩⟩
      · rw [anyAmong, met]
        exact answered
      · rintro ⟨other, member, hit, isHit⟩
        exact ⟨other, List.mem_cons_of_mem _ member, hit, isHit⟩
      · rintro ⟨other, member, hit, isHit⟩
        obtain rfl | member := List.mem_cons.mp member
        · cases met.symm.trans isHit
        · exact ⟨other, member, hit, isHit⟩

/-- A part of some triangles that has all that are hit is hit when the whole is. -/
theorem anyAmong_of_complete (indexed : mesh.Indexed) {ray : Ray S} {bound : S}
    {part whole : List Nat} (inRange : ∀ triangle ∈ whole, triangle < mesh.faces.size)
    (subset : part ⊆ whole)
    (complete : ∀ triangle hit, mesh.Hits ray bound triangle hit → triangle ∈ part) :
    mesh.anyAmong ray bound part = mesh.anyAmong ray bound whole := by
  obtain ⟨answer, answered, correct⟩ := exists_anyAmong indexed ray bound inRange
  obtain ⟨partAnswer, partAnswered, partCorrect⟩ := exists_anyAmong indexed ray bound
    fun triangle member => inRange triangle (subset member)
  have same : partAnswer = answer := by
    rw [Bool.eq_iff_iff, partCorrect, correct]
    constructor
    · rintro ⟨triangle, member, isHit⟩
      exact ⟨triangle, subset member, isHit⟩
    · rintro ⟨triangle, -, hit, isHit⟩
      exact ⟨triangle, complete triangle hit isHit, hit, isHit⟩
  rw [answered, partAnswered, same]

end Any

/-! ## Surface hits -/

section Surface

variable {S : Type} [Scalar S] {mesh : Mesh S}

/-- A hit on a triangle of an indexed mesh has a surface hit, at the same parameter. -/
theorem Indexed.exists_surfaceHit (indexed : mesh.Indexed) {triangle : Nat}
    (inRange : triangle < mesh.faces.size) (hit : TriangleHit S) :
    ∃ surface, mesh.surfaceHit triangle hit = .ok surface ∧ surface.lambda = hit.lambda := by
  obtain ⟨face, fetched⟩ := exists_fetch inRange
  have present := fetch_eq_ok_iff.mp fetched
  have hasCorner := indexed face (Array.mem_of_getElem? present)
  have hasNormal : ∃ normal, mesh.normalAt triangle hit.weights = .ok normal := by
    by_cases aligned : mesh.normals.size = mesh.positions.size
    · obtain ⟨normals, gathered⟩ := Mesh.exists_gather fun index isCorner =>
        aligned.symm ▸ hasCorner index isCorner
      exact ⟨_, normalAt_of_aligned aligned present gathered hit.weights⟩
    · obtain ⟨corners, hasCorners⟩ := indexed.exists_corners inRange
      exact ⟨_, normalAt_of_misaligned aligned hasCorners hit.weights⟩
  obtain ⟨normal, isNormal⟩ := hasNormal
  obtain ⟨uvw, isSurface⟩ := exists_surfaceHit_of_normalAt present hasCorner isNormal
  exact ⟨_, isSurface, rfl⟩

end Surface

/-! ## The nearest hit -/

section Nearest

variable {mesh : Mesh Exact} {ray : Ray Exact} {bound : Exact}

/-- What a search among some triangles is to find: nothing when none of them is
hit, and otherwise the hit on one of them with the least parameter. -/
def IsNearest (mesh : Mesh Exact) (ray : Ray Exact) (bound : Exact) (triangles : List Nat) :
    Option (Nearest Exact) → Prop
  | none => ∀ triangle ∈ triangles, ∀ hit, ¬mesh.Hits ray bound triangle hit
  | some nearest => nearest.triangle ∈ triangles ∧
      mesh.Hits ray bound nearest.triangle nearest.hit ∧
      ∀ triangle ∈ triangles, ∀ hit, mesh.Hits ray bound triangle hit →
        nearest.hit.lambda ≤ hit.lambda

theorem isNearest_nil : mesh.IsNearest ray bound [] none := fun _ member => nomatch member

/-- A hit before the remaining bound is nearer than everything seen so far. -/
theorem IsNearest.hit {seen : List Nat} {nearest : Option (Nearest Exact)}
    (isNearest : mesh.IsNearest ray bound seen nearest) {triangle : Nat} {hit : TriangleHit Exact}
    (isHit : mesh.Hits ray (remainingBound bound nearest) triangle hit) :
    mesh.IsNearest ray bound (seen ++ [triangle]) (some ⟨triangle, hit⟩) := by
  have reflexive : hit.lambda ≤ hit.lambda :=
    Exact.le_refl (Exact.lt_iff.mp isHit.inRange.2).1
  have last (inBound : mesh.Hits ray bound triangle hit)
      (before : ∀ other ∈ seen, ∀ otherHit, mesh.Hits ray bound other otherHit →
        hit.lambda ≤ otherHit.lambda) :
      mesh.IsNearest ray bound (seen ++ [triangle]) (some ⟨triangle, hit⟩) := by
    refine ⟨List.mem_append_right _ List.mem_cons_self, inBound, ?_⟩
    intro other member otherHit isOther
    obtain member | member := List.mem_append.mp member
    · exact before other member otherHit isOther
    · obtain rfl := List.mem_singleton.mp member
      exact inBound.unique isOther ▸ reflexive
  cases nearest with
  | none =>
    exact last isHit fun other member otherHit isOther =>
      absurd isOther (isNearest other member otherHit)
  | some nearest =>
    obtain ⟨positive, nearer⟩ := isHit.inRange
    obtain ⟨-, nearestHit, least⟩ := isNearest
    refine last (isHit.of_inRange ⟨positive, Exact.lt_trans nearer nearestHit.inRange.2⟩) ?_
    intro other member otherHit isOther
    exact Exact.le_trans (Exact.le_of_lt nearer) (least other member otherHit isOther)

/-- A triangle that is not hit before the remaining bound is no nearer than the nearest. -/
theorem IsNearest.miss {seen : List Nat} {nearest : Option (Nearest Exact)}
    (isNearest : mesh.IsNearest ray bound seen nearest) {triangle : Nat}
    (missed : mesh.meet triangle ray (remainingBound bound nearest) = .ok none) :
    mesh.IsNearest ray bound (seen ++ [triangle]) nearest := by
  cases nearest with
  | none =>
    intro other member hit isHit
    obtain member | member := List.mem_append.mp member
    · exact isNearest other member hit isHit
    · obtain rfl := List.mem_singleton.mp member
      cases missed.symm.trans isHit
  | some nearest =>
    obtain ⟨member, nearestHit, least⟩ := isNearest
    refine ⟨List.mem_append_left _ member, nearestHit, ?_⟩
    intro other member hit isHit
    obtain member | member := List.mem_append.mp member
    · exact least other member hit isHit
    · obtain rfl := List.mem_singleton.mp member
      have notNearer : ¬hit.lambda < nearest.hit.lambda := fun nearer =>
        nomatch missed.symm.trans (isHit.of_inRange ⟨isHit.inRange.1, nearer⟩)
      have defined := (Exact.lt_iff.mp isHit.inRange.2).1
      have nearestDefined := (Exact.lt_iff.mp nearestHit.inRange.2).1
      exact (Exact.not_lt defined nearestDefined).mp notNearer

/-- **One step of a search keeps the nearest of the triangles seen so far.** -/
theorem IsNearest.step (indexed : mesh.Indexed) {seen : List Nat}
    {nearest : Option (Nearest Exact)} (isNearest : mesh.IsNearest ray bound seen nearest)
    {triangle : Nat} (inRange : triangle < mesh.faces.size) :
    ∃ next, mesh.closer ray bound nearest triangle = .ok next ∧
      mesh.IsNearest ray bound (seen ++ [triangle]) next := by
  obtain ⟨result, met⟩ := indexed.exists_meet inRange ray (remainingBound bound nearest)
  cases result with
  | some hit => exact ⟨some ⟨triangle, hit⟩, by rw [closer, met]; rfl, isNearest.hit met⟩
  | none => exact ⟨nearest, by rw [closer, met]; rfl, isNearest.miss met⟩

theorem IsNearest.run (indexed : mesh.Indexed) {seen triangles : List Nat}
    {nearest : Option (Nearest Exact)} (isNearest : mesh.IsNearest ray bound seen nearest)
    (inRange : ∀ triangle ∈ triangles, triangle < mesh.faces.size) :
    ∃ result, triangles.foldlM (mesh.closer ray bound) nearest = .ok result ∧
      mesh.IsNearest ray bound (seen ++ triangles) result := by
  induction triangles generalizing seen nearest with
  | nil => exact ⟨nearest, rfl, (List.append_nil seen).symm ▸ isNearest⟩
  | cons triangle rest ih =>
    obtain ⟨next, stepped, nextNearest⟩ :=
      isNearest.step indexed (inRange triangle List.mem_cons_self)
    obtain ⟨result, ran, resultNearest⟩ :=
      ih nextNearest fun other member => inRange other (List.mem_cons_of_mem _ member)
    refine ⟨result, ?_, by rwa [List.append_assoc] at resultNearest⟩
    rw [List.foldlM_cons, stepped]
    exact ran

/-- **A search finds the nearest of its triangles.** -/
theorem exists_nearestAmong (indexed : mesh.Indexed) (ray : Ray Exact) (bound : Exact)
    {triangles : List Nat} (inRange : ∀ triangle ∈ triangles, triangle < mesh.faces.size) :
    ∃ result, mesh.nearestAmong ray bound triangles = .ok result ∧
      mesh.IsNearest ray bound triangles result :=
  isNearest_nil.run indexed inRange

theorem closestAmong_of_none {triangles : List Nat}
    (searched : mesh.nearestAmong ray bound triangles = .ok none) :
    mesh.closestAmong ray bound triangles = .ok none := by
  rw [closestAmong, searched]
  rfl

theorem closestAmong_of_some {triangles : List Nat} {nearest : Nearest Exact}
    (searched : mesh.nearestAmong ray bound triangles = .ok (some nearest))
    {surface : SurfaceHit Exact}
    (isSurface : mesh.surfaceHit nearest.triangle nearest.hit = .ok surface) :
    mesh.closestAmong ray bound triangles = .ok (some surface) := by
  rw [closestAmong, searched]
  exact congrArg (· >>= fun surface => pure (some surface)) isSurface

/-- A nearest triangle of an indexed mesh has a surface hit, at the parameter of its hit. -/
theorem exists_closestAmong (indexed : mesh.Indexed) {triangles : List Nat}
    {result : Option (Nearest Exact)}
    (searched : mesh.nearestAmong ray bound triangles = .ok result)
    (isNearest : mesh.IsNearest ray bound triangles result) :
    ∃ closest, mesh.closestAmong ray bound triangles = .ok closest ∧
      (closest.map SurfaceHit.lambda = result.map fun nearest => nearest.hit.lambda) ∧
      ∀ surface, closest = some surface → ∃ nearest, result = some nearest ∧
        mesh.surfaceHit nearest.triangle nearest.hit = .ok surface := by
  cases result with
  | none =>
    refine ⟨none, closestAmong_of_none searched, rfl, ?_⟩
    intro surface absent
    exact absurd absent.symm (Option.some_ne_none surface)
  | some nearest =>
    obtain ⟨surface, isSurface, sameLambda⟩ :=
      indexed.exists_surfaceHit isNearest.2.1.lt_size nearest.hit
    exact ⟨some surface, closestAmong_of_some searched isSurface, congrArg some sameLambda,
      fun other same => ⟨nearest, rfl, Option.some.inj same ▸ isSurface⟩⟩

end Nearest

end Mesh

end RayTracer
