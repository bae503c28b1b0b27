import RayTracer.Scene.Query
import RayTracer.Proofs.Binary64
import RayTracer.Proofs.Shape.Agreement

/-!
# The two queries of a scene agree

A scene is searched for the nearest intersection with a bound that shrinks from
hit to hit, and for any intersection with a fixed bound and up to the first hit.
A search for the nearest intersection that has found something has found it in
range, and goes on with something found; one that has found nothing yet still
has the whole bound. So both searches find something or neither does
(`Scene.agree_of_wellFormed`), for floating point numbers of any value
(`queries_agree`).
-/

set_option autoImplicit false

namespace RayTracer

namespace Scene

variable {S : Type} [Scalar S]

/-! ## One step -/

section Step

variable {ray : Ray S} {bound : S} {nearest : Option (Intersection S)} {number : Nat}
  {renderable : Renderable S}

theorem closer_of_none
    (missed : renderable.shape.closest ray (remainingBound bound nearest) = .ok none) :
    closer ray bound nearest number renderable = .ok nearest := by
  rw [closer, missed]
  rfl

theorem closer_of_some {hit : SurfaceHit S}
    (found : renderable.shape.closest ray (remainingBound bound nearest) = .ok (some hit))
    (nearer : hit.lambda < remainingBound bound nearest) :
    closer ray bound nearest number renderable = .ok (some (.ofHit ray number hit)) := by
  rw [closer, found]
  exact if_pos nearer

/-- What a step of a search finds was found before, or is a hit on its renderable. -/
theorem closer_cases {next : Option (Intersection S)}
    (stepped : closer ray bound nearest number renderable = .ok next) :
    next = nearest ∨ ∃ hit, next = some (.ofHit ray number hit) ∧
      renderable.shape.closest ray (remainingBound bound nearest) = .ok (some hit) := by
  obtain ⟨found, searched, isNext⟩ := exists_of_bind_eq_ok stepped
  cases found with
  | none => exact .inl (Except.ok.inj isNext).symm
  | some hit =>
    by_cases nearer : hit.lambda < remainingBound bound nearest
    · exact .inr ⟨hit, (Except.ok.inj ((if_pos nearer).symm.trans isNext)).symm, searched⟩
    · exact .inl (Except.ok.inj ((if_neg nearer).symm.trans isNext)).symm

end Step

theorem nearestFrom_cons {ray : Ray S} {bound : S} {nearest next : Option (Intersection S)}
    {number : Nat} {renderable : Renderable S}
    (stepped : closer ray bound nearest number renderable = .ok next)
    (rest : List (Renderable S)) :
    nearestFrom ray bound nearest number (renderable :: rest) =
      nearestFrom ray bound next (number + 1) rest := by
  rw [nearestFrom, stepped]
  rfl

/-- What all hits on the renderables have in common, the nearest intersection has. -/
theorem forall_nearestFrom {holds : Intersection S → Prop} {ray : Ray S} {bound : S}
    {renderables : List (Renderable S)}
    (ofHit : ∀ renderable ∈ renderables, ∀ number remaining hit,
      renderable.shape.closest ray remaining = .ok (some hit) → holds (.ofHit ray number hit))
    {nearest result : Option (Intersection S)} {number : Nat}
    (earlier : ∀ hit ∈ nearest, holds hit)
    (searched : nearestFrom ray bound nearest number renderables = .ok result) :
    ∀ hit ∈ result, holds hit := by
  induction renderables generalizing nearest number with
  | nil =>
    cases searched
    exact earlier
  | cons renderable rest ih =>
    obtain ⟨next, stepped, searched⟩ := exists_of_bind_eq_ok searched
    obtain ⟨here, later⟩ := List.forall_mem_cons.mp ofHit
    refine ih later ?_ searched
    obtain rfl | ⟨hit, rfl, isHit⟩ := closer_cases stepped
    · exact earlier
    · intro other isNext
      cases isNext
      exact here number _ hit isHit

/-! ## Searching the renderables -/

/-- All shapes are well formed. -/
def WellFormed (renderables : List (Renderable S)) : Prop :=
  ∀ renderable ∈ renderables, renderable.shape.WellFormed

/-- Preparing a scene whose vertex indices are in range makes its shapes well formed. -/
theorem wellFormed_prepare {scene : Scene S}
    (indexed : ∀ renderable ∈ scene.renderables, renderable.shape.Indexed) :
    WellFormed scene.prepare.renderables := by
  intro renderable member
  obtain ⟨original, isOriginal, rfl⟩ := List.mem_map.mp member
  exact Shape.wellFormed_prepare (indexed original isOriginal)

/-- A ray hits one of the renderables. -/
def SomeHit (ray : Ray S) (bound : S) (renderables : List (Renderable S)) : Prop :=
  ∃ renderable ∈ renderables, ∃ hit, renderable.shape.closest ray bound = .ok (some hit)

/-- What a search through some renderables may report: nothing when none of them
is hit, and otherwise an intersection in range. -/
def IsReport (ray : Ray S) (bound : S) (renderables : List (Renderable S)) :
    Option (Intersection S) → Prop
  | none => ¬SomeHit ray bound renderables
  | some nearest => InRange nearest.lambda bound ∧ SomeHit ray bound renderables

theorem someHit_append {ray : Ray S} {bound : S} {seen rest : List (Renderable S)} :
    SomeHit ray bound (seen ++ rest) ↔ SomeHit ray bound seen ∨ SomeHit ray bound rest := by
  simp only [SomeHit, List.mem_append, or_and_right, exists_or]

theorem someHit_singleton {ray : Ray S} {bound : S} {renderable : Renderable S} :
    SomeHit ray bound [renderable] ↔
      ∃ hit, renderable.shape.closest ray bound = .ok (some hit) := by
  simp only [SomeHit, List.mem_singleton, exists_eq_left]

variable [IsTrans S (· < ·)]

/-- **One step of a search keeps a report on the renderables seen so far.** -/
theorem IsReport.step {ray : Ray S} {bound : S} {seen : List (Renderable S)}
    {nearest : Option (Intersection S)} (isReport : IsReport ray bound seen nearest)
    {renderable : Renderable S} (wellFormed : renderable.shape.WellFormed) (number : Nat) :
    ∃ next, closer ray bound nearest number renderable = .ok next ∧
      IsReport ray bound (seen ++ [renderable]) next := by
  obtain ⟨found, searched, -, inRange⟩ :=
    Shape.agree wellFormed ray (remainingBound bound nearest)
  cases found with
  | none =>
    refine ⟨nearest, closer_of_none searched, ?_⟩
    cases nearest with
    | none =>
      intro someHit
      obtain before | here := someHit_append.mp someHit
      · exact isReport before
      · obtain ⟨hit, isHit⟩ := someHit_singleton.mp here
        cases searched.symm.trans isHit
    | some nearest => exact ⟨isReport.1, someHit_append.mpr (.inl isReport.2)⟩
  | some hit =>
    have hitInRange := inRange hit rfl
    refine ⟨_, closer_of_some searched hitInRange.2, ?_⟩
    cases nearest with
    | none => exact ⟨hitInRange, someHit_append.mpr (.inr (someHit_singleton.mpr ⟨hit, searched⟩))⟩
    | some nearest =>
      exact ⟨hitInRange.trans isReport.1, someHit_append.mpr (.inl isReport.2)⟩

theorem IsReport.run {ray : Ray S} {bound : S} {seen renderables : List (Renderable S)}
    {nearest : Option (Intersection S)} (isReport : IsReport ray bound seen nearest)
    (wellFormed : WellFormed renderables) (number : Nat) :
    ∃ result, nearestFrom ray bound nearest number renderables = .ok result ∧
      IsReport ray bound (seen ++ renderables) result := by
  induction renderables generalizing seen nearest number with
  | nil => exact ⟨nearest, rfl, (List.append_nil seen).symm ▸ isReport⟩
  | cons renderable rest ih =>
    obtain ⟨next, stepped, nextReport⟩ :=
      isReport.step (wellFormed renderable List.mem_cons_self) number
    obtain ⟨result, ran, resultReport⟩ :=
      ih nextReport (fun other member => wellFormed other (List.mem_cons_of_mem _ member))
        (number + 1)
    refine ⟨result, (nearestFrom_cons stepped rest).trans ran, ?_⟩
    rwa [List.append_assoc] at resultReport

/-- The search for any intersection answers whether a renderable is hit. -/
theorem exists_anyOf {renderables : List (Renderable S)} (wellFormed : WellFormed renderables)
    (ray : Ray S) (bound : S) :
    ∃ answer, anyOf ray bound renderables = .ok answer ∧
      (answer = true ↔ SomeHit ray bound renderables) := by
  induction renderables with
  | nil => exact ⟨false, rfl, by simp [SomeHit]⟩
  | cons renderable rest ih =>
    obtain ⟨found, searched, answered, -⟩ :=
      Shape.agree (wellFormed renderable List.mem_cons_self) ray bound
    cases found with
    | some hit =>
      refine ⟨true, ?_, iff_of_true rfl ⟨renderable, List.mem_cons_self, hit, searched⟩⟩
      rw [anyOf, answered]
      rfl
    | none =>
      obtain ⟨answer, restAnswered, correct⟩ :=
        ih fun other member => wellFormed other (List.mem_cons_of_mem _ member)
      have missed : ¬SomeHit ray bound [renderable] := by
        rw [someHit_singleton]
        rintro ⟨hit, isHit⟩
        cases searched.symm.trans isHit
      refine ⟨answer, ?_, ?_⟩
      · rw [anyOf, answered]
        exact restAnswered
      · rw [correct, ← List.singleton_append, someHit_append, or_iff_right missed]

/-- The two queries of a scene of well-formed shapes agree. -/
theorem agree_of_wellFormed {scene : Scene S} (wellFormed : WellFormed scene.renderables)
    (ray : Ray S) (bound : S) :
    Agree Intersection.lambda bound (scene.closest ray bound) (scene.any ray bound) := by
  have start : IsReport ray bound [] none := by simp [IsReport, SomeHit]
  obtain ⟨result, searched, isReport⟩ := start.run wellFormed 0
  obtain ⟨answer, answered, correct⟩ := exists_anyOf wellFormed ray bound
  rw [List.nil_append] at isReport
  refine ⟨result, searched, answered.trans (congrArg Except.ok ?_), ?_⟩
  · cases result with
    | none => exact Bool.eq_false_iff.mpr fun hits => isReport (correct.mp hits)
    | some nearest => exact correct.mpr isReport.2
  · rintro nearest rfl
    exact isReport.1

/-! ## Floating point numbers -/

/-- **The two queries agree on every floating point input.** A well-formed shape
is hit by a ray before a bound exactly when its nearest hit is found, and that
hit is in range; the same holds of scenes of well-formed shapes. No query faults. -/
theorem queries_agree (ray : Ray Float) (bound : Float) :
    (∀ shape : Shape Float, shape.WellFormed → ∃ found, shape.closest ray bound = .ok found ∧
      shape.any ray bound = .ok found.isSome ∧
      ∀ hit, found = some hit → InRange hit.lambda bound) ∧
    ∀ scene : Scene Float, (∀ renderable ∈ scene.renderables, renderable.shape.WellFormed) →
      ∃ found, scene.closest ray bound = .ok found ∧ scene.any ray bound = .ok found.isSome ∧
        ∀ intersection, found = some intersection → InRange intersection.lambda bound :=
  ⟨fun _ wellFormed => Shape.agree wellFormed ray bound,
    fun _ wellFormed => agree_of_wellFormed wellFormed ray bound⟩

/-- A prepared mesh with a vertex that is not a number, and a sphere behind it. -/
theorem queries_agree_undefinedVertex :
    let mesh : Mesh Float := .ofParts #[⟨0.0 / 0.0, 0, 0⟩, ⟨1, 0, 0⟩, ⟨0, 1, 0⟩] #[] #[⟨0, 1, 2⟩]
    let shape : Shape Float := .accelerated (AcceleratedMesh.ofMesh mesh).buildTree
    let scene : Scene Float := empty.addAll [⟨shape, .standard⟩, ⟨.sphere .unit, .standard⟩]
    shape.WellFormed ∧ (∀ renderable ∈ scene.renderables, renderable.shape.WellFormed) ∧
      (∃ found, shape.closest .vertical Scalar.infinity = .ok found ∧
        shape.any .vertical Scalar.infinity = .ok found.isSome) ∧
      ∃ found, scene.closest .vertical Scalar.infinity = .ok found ∧
        scene.any .vertical Scalar.infinity = .ok found.isSome := by
  intro mesh shape scene
  have indexed : mesh.Indexed := by
    intro face member index isCorner
    obtain rfl : face = ⟨0, 1, 2⟩ := by simpa [mesh, Mesh.ofParts] using member
    have three : index = 0 ∨ index = 1 ∨ index = 2 := by simpa [Corners.toList] using isCorner
    change index < 3
    omega
  have shapeFormed : shape.WellFormed := ⟨indexed, AcceleratedMesh.current_buildTree _⟩
  have sceneFormed : ∀ renderable ∈ scene.renderables, renderable.shape.WellFormed := by
    intro renderable member
    obtain rfl | rfl := by simpa [scene, addAll, add, empty] using member
    · exact shapeFormed
    · trivial
  obtain ⟨ofShapes, ofScenes⟩ := queries_agree .vertical Scalar.infinity
  obtain ⟨found, searched, answered, -⟩ := ofShapes shape shapeFormed
  obtain ⟨intersection, sceneSearched, sceneAnswered, -⟩ := ofScenes scene sceneFormed
  exact ⟨shapeFormed, sceneFormed, ⟨found, searched, answered⟩,
    intersection, sceneSearched, sceneAnswered⟩

end Scene

end RayTracer
