import RayTracer.Proofs.Scene.Agreement
import RayTracer.Proofs.Shape.Narrowing

/-!
# The nearest intersection of a scene

The search of a scene asks every renderable with the parameter of the nearest hit
so far for its bound. In exact arithmetic it finds what asking each of them with
the whole bound and taking the least parameter would find, and of several nearest
renderables the first (`Scene.closest_isFirstNearest`).

The reason is that the query of every shape narrows: with a smaller bound it
answers the same, up to a hit that is not before that bound. So each step keeps
the first nearest hit among the renderables seen so far (`IsNearest.step`). As a
least parameter does not depend on any order, neither does the parameter found.
-/

set_option autoImplicit false

namespace RayTracer.Scene

open Exact

variable {ray : Ray Exact} {bound : Exact}

/-! ## The first nearest hit -/

/-- The renderable with a number is hit in range; every other hit, each looked for
with the whole bound, is no nearer; and one on a renderable added earlier is farther. -/
structure IsFirstNearest (ray : Ray Exact) (bound : Exact) (renderables : List (Renderable Exact))
    (number : Nat) (hit : SurfaceHit Exact) : Prop where
  own : ∃ renderable, renderables[number]? = some renderable ∧
    renderable.shape.closest ray bound = .ok (some hit)
  inRange : InRange hit.lambda bound
  least : ∀ (other : Nat) (renderable : Renderable Exact) (otherHit : SurfaceHit Exact),
    renderables[other]? = some renderable →
    renderable.shape.closest ray bound = .ok (some otherHit) →
    hit.lambda ≤ otherHit.lambda ∧ (other < number → hit.lambda < otherHit.lambda)

/-- What a search through some renderables is to find: nothing when none of them is
hit, and otherwise the intersection at the first nearest hit. -/
def IsNearest (ray : Ray Exact) (bound : Exact) (renderables : List (Renderable Exact)) :
    Option (Intersection Exact) → Prop
  | none => ¬SomeHit ray bound renderables
  | some intersection => ∃ number hit, IsFirstNearest ray bound renderables number hit ∧
      intersection = .ofHit ray number hit

theorem IsFirstNearest.le_of_mem {renderables : List (Renderable Exact)} {number : Nat}
    {hit : SurfaceHit Exact} (isFirst : IsFirstNearest ray bound renderables number hit)
    {renderable : Renderable Exact} (member : renderable ∈ renderables)
    {otherHit : SurfaceHit Exact}
    (isHit : renderable.shape.closest ray bound = .ok (some otherHit)) :
    hit.lambda ≤ otherHit.lambda := by
  obtain ⟨other, present⟩ := List.mem_iff_getElem?.mp member
  exact (isFirst.least other renderable otherHit present isHit).1

theorem getElem?_concat_eq_some_iff {α : Type} {list : List α} {last value : α} {index : Nat} :
    (list ++ [last])[index]? = some value ↔
      list[index]? = some value ∨ index = list.length ∧ last = value := by
  obtain less | rfl | greater := Nat.lt_trichotomy index list.length
  · rw [List.getElem?_append_left less]
    simp [Nat.ne_of_lt less]
  · simp
  · have beyond : (list ++ [last]).length ≤ index := by
      rw [List.length_append]
      exact greater
    simp [List.getElem?_eq_none beyond, List.getElem?_eq_none (Nat.le_of_lt greater),
      Nat.ne_of_gt greater]

/-! ## One step -/

section Step

variable {seen : List (Renderable Exact)} {renderable : Renderable Exact} {number : Nat}
  {hit : SurfaceHit Exact}

/-- A first nearest hit stays one when the next renderable has no nearer hit. -/
theorem IsFirstNearest.keep (isFirst : IsFirstNearest ray bound seen number hit)
    (notNearer : ∀ ownHit, renderable.shape.closest ray bound = .ok (some ownHit) →
      hit.lambda ≤ ownHit.lambda) :
    IsFirstNearest ray bound (seen ++ [renderable]) number hit := by
  obtain ⟨⟨firstRenderable, present, isHit⟩, inRange, least⟩ := isFirst
  refine ⟨⟨firstRenderable, getElem?_concat_eq_some_iff.mpr (.inl present), isHit⟩, inRange, ?_⟩
  intro other otherRenderable otherHit isOther otherIsHit
  obtain before | ⟨rfl, rfl⟩ := getElem?_concat_eq_some_iff.mp isOther
  · exact least other otherRenderable otherHit before otherIsHit
  · have inSeen := (List.getElem?_eq_some_iff.mp present).1
    exact ⟨notNearer otherHit otherIsHit, fun after => absurd after (Nat.not_lt.mpr inSeen.le)⟩

/-- A hit nearer than all hits so far is the first nearest hit. -/
theorem isFirstNearest_concat (isHit : renderable.shape.closest ray bound = .ok (some hit))
    (inRange : InRange hit.lambda bound)
    (nearer : ∀ other ∈ seen, ∀ otherHit, other.shape.closest ray bound = .ok (some otherHit) →
      hit.lambda < otherHit.lambda) :
    IsFirstNearest ray bound (seen ++ [renderable]) seen.length hit := by
  refine ⟨⟨renderable, getElem?_concat_eq_some_iff.mpr (.inr ⟨rfl, rfl⟩), isHit⟩, inRange, ?_⟩
  intro other otherRenderable otherHit isOther otherIsHit
  obtain before | ⟨rfl, rfl⟩ := getElem?_concat_eq_some_iff.mp isOther
  · have less := nearer otherRenderable (List.mem_of_getElem? before) otherHit otherIsHit
    exact ⟨Exact.le_of_lt less, fun _ => less⟩
  · obtain rfl := Option.some.inj (Except.ok.inj (isHit.symm.trans otherIsHit))
    exact ⟨Exact.le_refl (Exact.lt_iff.mp inRange.2).1, fun after => absurd after (Nat.lt_irrefl _)⟩

/-- **One step of a search keeps the first nearest of the renderables seen so far.** -/
theorem IsNearest.step {nearest : Option (Intersection Exact)}
    (isNearest : IsNearest ray bound seen nearest) (wellFormed : renderable.shape.WellFormed)
    (narrows : Narrows SurfaceHit.lambda (renderable.shape.closest ray)) :
    ∃ next, closer ray bound nearest seen.length renderable = .ok next ∧
      IsNearest ray bound (seen ++ [renderable]) next := by
  obtain ⟨own, searched, narrow⟩ := narrows bound
  obtain ⟨found, found_eq, -, inRange⟩ := Shape.agree wellFormed ray bound
  obtain rfl := Except.ok.inj (searched.symm.trans found_eq)
  cases nearest with
  | none =>
    cases own with
    | none =>
      refine ⟨none, closer_of_none searched, fun someHit => ?_⟩
      obtain before | here := someHit_append.mp someHit
      · exact isNearest before
      · obtain ⟨hit, isHit⟩ := someHit_singleton.mp here
        cases searched.symm.trans isHit
    | some hit =>
      have hitInRange := inRange hit rfl
      refine ⟨_, closer_of_some searched hitInRange.2, seen.length, hit, ?_, rfl⟩
      exact isFirstNearest_concat searched hitInRange fun other member otherHit isHit =>
        absurd ⟨other, member, otherHit, isHit⟩ isNearest
  | some nearest =>
    obtain ⟨number, first, isFirst, rfl⟩ := isNearest
    -- The renderable is asked up to the first nearest hit only.
    have narrowed := narrow first.lambda (Exact.le_of_lt isFirst.inRange.2)
    cases own with
    | none =>
      refine ⟨_, closer_of_none narrowed, number, first, isFirst.keep ?_, rfl⟩
      intro hit isHit
      cases searched.symm.trans isHit
    | some hit =>
      by_cases nearer : hit.lambda < first.lambda
      · rw [cutOff_of_lt nearer] at narrowed
        refine ⟨_, closer_of_some narrowed nearer, seen.length, hit, ?_, rfl⟩
        exact isFirstNearest_concat searched (inRange hit rfl) fun other member otherHit isHit =>
          Exact.lt_of_lt_of_le nearer (isFirst.le_of_mem member isHit)
      · rw [cutOff_of_not_lt nearer] at narrowed
        refine ⟨_, closer_of_none narrowed, number, first, isFirst.keep ?_, rfl⟩
        intro ownHit isHit
        obtain rfl := Option.some.inj (Except.ok.inj (searched.symm.trans isHit))
        exact (Exact.not_lt (Exact.lt_iff.mp (inRange _ rfl).2).1
          (Exact.lt_iff.mp isFirst.inRange.2).1).mp nearer

end Step

/-! ## A whole search -/

theorem IsNearest.run {seen renderables : List (Renderable Exact)}
    {nearest : Option (Intersection Exact)} (isNearest : IsNearest ray bound seen nearest)
    (wellFormed : WellFormed renderables)
    (narrows : ∀ renderable ∈ renderables,
      Narrows SurfaceHit.lambda (renderable.shape.closest ray)) :
    ∃ result, nearestFrom ray bound nearest seen.length renderables = .ok result ∧
      IsNearest ray bound (seen ++ renderables) result := by
  induction renderables generalizing seen nearest with
  | nil => exact ⟨nearest, rfl, (List.append_nil seen).symm ▸ isNearest⟩
  | cons renderable rest ih =>
    have here : renderable ∈ renderable :: rest := List.mem_cons_self
    obtain ⟨next, stepped, nextNearest⟩ :=
      isNearest.step (wellFormed renderable here) (narrows renderable here)
    obtain ⟨result, ran, resultNearest⟩ :=
      ih nextNearest (fun other member => wellFormed other (List.mem_cons_of_mem _ member))
        (fun other member => narrows other (List.mem_cons_of_mem _ member))
    rw [List.length_append] at ran
    refine ⟨result, (nearestFrom_cons stepped rest).trans ran, ?_⟩
    rwa [List.append_assoc] at resultNearest

/-- **A search finds the first nearest of its renderables.** -/
theorem exists_closest {scene : Scene Exact} (wellFormed : WellFormed scene.renderables)
    (finite : ∀ renderable ∈ scene.renderables, renderable.shape.HasFiniteCoordinates)
    (rayFinite : ray.IsFinite) (bound : Exact) :
    ∃ result, scene.closest ray bound = .ok result ∧
      IsNearest ray bound scene.renderables result := by
  have start : IsNearest ray bound [] none := by simp [IsNearest, SomeHit]
  exact start.run wellFormed fun renderable member =>
    Shape.narrows (wellFormed renderable member) (finite renderable member) rayFinite

theorem someHit_of_perm {first second : List (Renderable Exact)} (perm : first.Perm second) :
    SomeHit ray bound first ↔ SomeHit ray bound second := by
  simp only [SomeHit, perm.mem_iff]

theorem IsFirstNearest.someHit {renderables : List (Renderable Exact)} {number : Nat}
    {hit : SurfaceHit Exact} (isFirst : IsFirstNearest ray bound renderables number hit) :
    SomeHit ray bound renderables := by
  obtain ⟨renderable, present, isHit⟩ := isFirst.own
  exact ⟨renderable, List.mem_of_getElem? present, hit, isHit⟩

/-- The least parameter does not depend on the order of the renderables. -/
theorem IsNearest.lambda_eq_of_perm {first second : List (Renderable Exact)}
    {nearest otherNearest : Option (Intersection Exact)}
    (isNearest : IsNearest ray bound first nearest)
    (other : IsNearest ray bound second otherNearest) (perm : first.Perm second) :
    nearest.map Intersection.lambda = otherNearest.map Intersection.lambda := by
  cases nearest with
  | none =>
    cases otherNearest with
    | none => rfl
    | some intersection =>
      obtain ⟨number, hit, isFirst, -⟩ := other
      exact absurd ((someHit_of_perm perm).mpr isFirst.someHit) isNearest
  | some intersection =>
    obtain ⟨number, hit, isFirst, rfl⟩ := isNearest
    cases otherNearest with
    | none => exact absurd ((someHit_of_perm perm).mp isFirst.someHit) other
    | some otherIntersection =>
      obtain ⟨otherNumber, otherHit, otherFirst, rfl⟩ := other
      obtain ⟨renderable, present, isHit⟩ := isFirst.own
      obtain ⟨otherRenderable, otherPresent, otherIsHit⟩ := otherFirst.own
      have above := isFirst.le_of_mem (perm.mem_iff.mpr (List.mem_of_getElem? otherPresent))
        otherIsHit
      have below := otherFirst.le_of_mem (perm.mem_iff.mp (List.mem_of_getElem? present)) isHit
      exact congrArg some (Exact.le_antisymm above below)

/-- **The search of a scene equals the plain minimum.** For well-formed shapes
with finite coordinates, a finite ray and any bound, nothing faults. The scene
reports nothing exactly when no renderable, asked with the whole bound, reports a
hit; otherwise it reports the first of the renderables whose own hit has the least
parameter, with that hit, at the point of the ray at its parameter. The parameter
stays the same when the renderables are added in another order. -/
theorem closest_isFirstNearest {scene : Scene Exact} (wellFormed : WellFormed scene.renderables)
    (finite : ∀ renderable ∈ scene.renderables, renderable.shape.HasFiniteCoordinates)
    (rayFinite : ray.IsFinite) (bound : Exact) :
    (∀ renderable ∈ scene.renderables, ∃ own, renderable.shape.closest ray bound = .ok own) ∧
    ∃ result, scene.closest ray bound = .ok result ∧
      (result = none ↔
        ∀ renderable ∈ scene.renderables, renderable.shape.closest ray bound = .ok none) ∧
      (∀ intersection, result = some intersection → ∃ number hit,
        IsFirstNearest ray bound scene.renderables number hit ∧
        intersection = ⟨ray, number, hit.lambda, ray.origin + hit.lambda • ray.direction,
          hit.normal, hit.uvw⟩) ∧
      ∀ other : Scene Exact, other.renderables.Perm scene.renderables →
        ∃ otherResult, other.closest ray bound = .ok otherResult ∧
          otherResult.map Intersection.lambda = result.map Intersection.lambda := by
  have answers (renderable : Renderable Exact) (member : renderable ∈ scene.renderables) :
      ∃ own, renderable.shape.closest ray bound = .ok own := by
    obtain ⟨own, searched, -⟩ := Shape.agree (wellFormed renderable member) ray bound
    exact ⟨own, searched⟩
  obtain ⟨result, searched, isNearest⟩ := exists_closest wellFormed finite rayFinite bound
  refine ⟨answers, result, searched, ⟨?_, ?_⟩, ?_, ?_⟩
  · rintro rfl renderable member
    obtain ⟨own, isOwn⟩ := answers renderable member
    cases own with
    | none => exact isOwn
    | some hit => exact absurd ⟨renderable, member, hit, isOwn⟩ isNearest
  · intro missed
    cases result with
    | none => rfl
    | some intersection =>
      obtain ⟨number, hit, isFirst, -⟩ := isNearest
      obtain ⟨renderable, member, hit, isHit⟩ := isFirst.someHit
      cases (missed renderable member).symm.trans isHit
  · rintro intersection rfl
    exact isNearest
  · intro other perm
    obtain ⟨otherResult, otherSearched, otherNearest⟩ :=
      exists_closest (fun renderable member => wellFormed renderable (perm.mem_iff.mp member))
        (fun renderable member => finite renderable (perm.mem_iff.mp member)) rayFinite bound
    exact ⟨otherResult, otherSearched, otherNearest.lambda_eq_of_perm isNearest perm⟩

/-- A prepared scene of a distant mesh and a sphere, and a ray from inside the sphere. -/
theorem closest_isFirstNearest_distantTriangle :
    let mesh : Renderable Exact := ⟨.accelerated (.ofMesh Bvh.distantTriangle), .standard⟩
    let scene := (empty.addAll [mesh, ⟨.sphere .unit, .standard⟩]).prepare
    let ray := Ray.ofReal Bvh.slantedRay
    WellFormed scene.renderables ∧
      (∀ renderable ∈ scene.renderables, renderable.shape.HasFiniteCoordinates) ∧
      ray.IsFinite ∧ ∃ result, scene.closest ray infinity = .ok result ∧
        (result = none ↔
          ∀ renderable ∈ scene.renderables, renderable.shape.closest ray infinity = .ok none) := by
  intro mesh scene ray
  have wellFormed : WellFormed scene.renderables := by
    refine wellFormed_prepare fun renderable member => ?_
    obtain rfl | rfl := by simpa [addAll, add, empty] using member
    · exact Bvh.indexed_distantTriangle
    · trivial
  have finite : ∀ renderable ∈ scene.renderables, renderable.shape.HasFiniteCoordinates := by
    intro renderable member
    obtain rfl | rfl := by simpa [scene, prepare, addAll, add, empty] using member
    · exact Bvh.finite_distantTriangle
    · refine ⟨⟨⟨0, 0, 0⟩, ?_⟩, max 1 0, ?_⟩
      · exact congrArg Vec3.splat zero_eq_real
      · exact (congrArg₂ Scalar.maxNum one_eq_real zero_eq_real).trans (maxNum_real 1 0)
  have rayFinite : ray.IsFinite := Ray.isFinite_ofReal _
  obtain ⟨-, result, searched, none_iff, -⟩ :=
    closest_isFirstNearest wellFormed finite rayFinite infinity
  exact ⟨wellFormed, finite, rayFinite, result, searched, none_iff⟩

end RayTracer.Scene
