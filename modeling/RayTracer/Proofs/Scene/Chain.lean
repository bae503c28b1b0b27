import RayTracer.Proofs.Scene.Tracing

/-!
# The chain of mirrored rays

A ray is mirrored at most once where it hits something, so it is followed by one ray
at a time. What these rays hit is a chain, found by the queries for the nearest
intersections alone (`Scene.chain`). What the first ray sees is worked out from the end
of this chain (`Scene.see`), and this is what tracing does (`Scene.trace_eq_see`).

A chain has at most one hit more than there are levels of recursion left. More levels
do not change a chain that ends in a miss or at a surface that does not mirror
(`Scene.chain_of_le`).
-/

set_option autoImplicit false

namespace RayTracer

/-! ## Chains -/

/-- What a ray and the rays mirrored after it hit. -/
inductive Chain (S : Type) where
  /-- The search for an intersection faults. -/
  | fault (fault : OutOfRange)
  /-- The ray hits nothing. -/
  | miss
  /-- The ray hits something and is not mirrored. It is cut off when the surface is a
  mirror, but there is no level left. -/
  | last (hit : Intersection S) (cutOff : Bool)
  /-- The ray hits a mirror and is mirrored. -/
  | mirror (hit : Intersection S) (next : Chain S)

namespace Chain

variable {S : Type}

/-- All hits, that of the first ray first. -/
def hits : Chain S → List (Intersection S)
  | fault _ | miss => []
  | last hit _ => [hit]
  | mirror hit next => hit :: next.hits

/-- How a chain ends. -/
inductive Ending where
  | fault
  | miss
  /-- At a surface that does not mirror. -/
  | matte
  /-- At a mirror, where no level is left. -/
  | cutOff
deriving DecidableEq

/-- The end of a chain. -/
def ending : Chain S → Ending
  | fault _ => .fault
  | miss => .miss
  | last _ cutOff => if cutOff then .cutOff else .matte
  | mirror _ next => next.ending

end Chain

namespace Scene

variable {S : Type} [Scalar S]

/-! ## The chain of a ray -/

/-- The material of what was hit. -/
def materialOf (scene : Scene S) (hit : Intersection S) : Material S :=
  (scene.renderables[hit.renderable]?.map Renderable.material).getD .standard

/-- The chain of a ray, when it may be mirrored a number of times. -/
def chain (scene : Scene S) (levels : Nat) (ray : Ray S) : Chain S :=
  match scene.closest ray Scalar.infinity with
  | .error fault => .fault fault
  | .ok none => .miss
  | .ok (some hit) =>
    if 0 < (scene.materialOf hit).reflectance then
      match levels with
      | 0 => .last hit true
      | levels + 1 => .mirror hit (scene.chain levels hit.mirrored)
    else .last hit false

-- The cases of an induction on chains are: the search faults, it finds nothing, it finds
-- a mirror and no level is left, it finds a mirror, it finds something else.
theorem length_hits_chain_le (scene : Scene S) (levels : Nat) (ray : Ray S) :
    (scene.chain levels ray).hits.length ≤ levels + 1 := by
  fun_induction scene.chain levels ray with
  | case1 levels ray fault searched => exact Nat.zero_le _
  | case2 levels ray searched => exact Nat.zero_le _
  | case3 ray hit searched mirrors => exact Nat.le_refl 1
  | case4 ray hit searched mirrors levels ih => exact Nat.succ_le_succ ih
  | case5 levels ray hit searched matte => exact Nat.le_add_left 1 _

/-- **More levels do not change a chain that is not cut off.** -/
theorem chain_of_le (scene : Scene S) {levels more : Nat} (fewer : levels ≤ more) {ray : Ray S}
    (complete : (scene.chain levels ray).ending ≠ .cutOff) :
    scene.chain more ray = scene.chain levels ray := by
  fun_induction scene.chain levels ray generalizing more with
  | case1 levels ray fault searched =>
    rw [chain]
    simp only [searched]
  | case2 levels ray searched =>
    rw [chain]
    simp only [searched]
  | case3 ray hit searched mirrors => exact absurd rfl complete
  | case4 ray hit searched mirrors levels ih =>
    obtain ⟨more, rfl⟩ := Nat.exists_eq_add_of_le' (Nat.le_trans (Nat.le_add_left 1 _) fewer)
    rw [chain]
    simp only [searched, mirrors, if_true, ih (Nat.le_of_succ_le_succ fewer) complete]
  | case5 levels ray hit searched matte =>
    rw [chain]
    simp only [searched, matte, if_false]

/-- The chain of a ray is decided by the renderables. -/
theorem chain_congr {scene other : Scene S} (same : scene.renderables = other.renderables)
    (levels : Nat) (ray : Ray S) : scene.chain levels ray = other.chain levels ray := by
  induction levels generalizing ray with
  | zero =>
    rw [chain, chain]
    simp only [closest, materialOf, same]
    rfl
  | succ levels ih =>
    rw [chain, chain]
    simp only [closest, materialOf, same, ih]
    rfl

/-! ## What is hit is a renderable -/

theorem renderable_closer_lt {ray : Ray S} {bound : S} {nearest next : Option (Intersection S)}
    {number : Nat} {renderable : Renderable S}
    (earlier : ∀ hit ∈ nearest, hit.renderable < number)
    (stepped : closer ray bound nearest number renderable = .ok next) :
    ∀ hit ∈ next, hit.renderable < number + 1 := by
  have kept : ∀ hit ∈ nearest, hit.renderable < number + 1 := fun hit isNearest =>
    Nat.lt_succ_of_lt (earlier hit isNearest)
  obtain rfl | ⟨hit, rfl, -⟩ := closer_cases stepped
  · exact kept
  · intro other isNext
    cases isNext
    exact Nat.lt_succ_self number

theorem renderable_nearestFrom_lt {ray : Ray S} {bound : S}
    {nearest result : Option (Intersection S)} {number : Nat} {renderables : List (Renderable S)}
    (earlier : ∀ hit ∈ nearest, hit.renderable < number)
    (searched : nearestFrom ray bound nearest number renderables = .ok result) :
    ∀ hit ∈ result, hit.renderable < number + renderables.length := by
  induction renderables generalizing nearest number with
  | nil =>
    cases searched
    exact earlier
  | cons renderable rest ih =>
    obtain ⟨next, stepped, searched⟩ := exists_of_bind_eq_ok searched
    intro hit isResult
    have inRange := ih (renderable_closer_lt earlier stepped) searched hit isResult
    rwa [List.length_cons, Nat.add_comm rest.length, ← Nat.add_assoc]

/-- What a ray hits is one of the renderables, so it has a material. -/
theorem exists_material {scene : Scene S} {ray : Ray S} {bound : S} {hit : Intersection S}
    (searched : scene.closest ray bound = .ok (some hit)) :
    ∃ renderable, scene.renderables[hit.renderable]? = some renderable ∧
      scene.materialOf hit = renderable.material := by
  have inRange := renderable_nearestFrom_lt (by simp) searched hit rfl
  rw [Nat.zero_add] at inRange
  have present := List.getElem?_eq_getElem inRange
  refine ⟨_, present, ?_⟩
  rw [materialOf, present]
  rfl

/-- What is hit along a chain is one of the renderables. -/
theorem exists_mem_of_mem_hits {scene : Scene S} {levels : Nat} {ray : Ray S}
    {hit : Intersection S} (member : hit ∈ (scene.chain levels ray).hits) :
    ∃ renderable ∈ scene.renderables, scene.materialOf hit = renderable.material := by
  have here {ray : Ray S} {hit : Intersection S}
      (searched : scene.closest ray Scalar.infinity = .ok (some hit)) :
      ∃ renderable ∈ scene.renderables, scene.materialOf hit = renderable.material := by
    obtain ⟨renderable, present, material⟩ := exists_material searched
    exact ⟨renderable, List.mem_of_getElem? present, material⟩
  fun_induction scene.chain levels ray with
  | case1 levels ray fault searched => cases member
  | case2 levels ray searched => cases member
  | case3 ray other searched mirrors =>
    obtain rfl := List.mem_singleton.mp member
    exact here searched
  | case4 ray other searched mirrors levels ih =>
    obtain rfl | later := List.mem_cons.mp member
    · exact here searched
    · exact ih later
  | case5 levels ray other searched matte =>
    obtain rfl := List.mem_singleton.mp member
    exact here searched

/-! ## What is seen along a chain -/

/-- What a ray sees that hits something, from the light that leaves it. -/
def met (light : Counted (Color S)) : Counted (Sighting S) := do
  Counted.intersection
  return ⟨← light, true⟩

omit [Scalar S] in
theorem met_eq (light : Counted (Color S)) :
    met light = ⟨light.outcome.map (⟨·, true⟩), ⟨1, 0⟩ + light.tally⟩ := by
  rw [met, Counted.bind_of_ok rfl, Counted.bind_pure_comp]
  rfl

/-- What a ray with a given chain sees. -/
def see (scene : Scene S) : Chain S → Counted (Sighting S)
  | .fault fault => .uncounted (.error fault)
  | .miss => return ⟨scene.background, false⟩
  | .last hit _ => met (scene.localColor (scene.materialOf hit) hit)
  | .mirror hit next => met do
    let color ← scene.localColor (scene.materialOf hit) hit
    let sighting ← scene.see next
    return mix (scene.materialOf hit) color (scene.incident sighting)

section Hit

variable {scene : Scene S} {ray : Ray S} {hit : Intersection S}
  (searched : scene.closest ray Scalar.infinity = .ok (some hit)) (depth greatestDepth : Nat)
include searched

theorem trace_of_hit :
    scene.trace ray depth greatestDepth = met (scene.shade hit depth greatestDepth) := by
  rw [trace, searched, Counted.uncounted_bind]
  rfl

theorem shade_of_not_mirrored
    (notMirrored : ¬(depth < greatestDepth ∧ 0 < (scene.materialOf hit).reflectance)) :
    scene.shade hit depth greatestDepth = scene.localColor (scene.materialOf hit) hit := by
  obtain ⟨renderable, present, material⟩ := exists_material searched
  rw [material] at notMirrored
  rw [shade, present, material]
  dsimp only
  simp only [notMirrored, if_false]
  rw [Counted.bind_pure_comp]
  exact Counted.ext (congrFun Except.map_id _) rfl

theorem shade_of_mirrored {depth greatestDepth : Nat}
    (mirrored : depth < greatestDepth ∧ 0 < (scene.materialOf hit).reflectance) :
    scene.shade hit depth greatestDepth = do
      let color ← scene.localColor (scene.materialOf hit) hit
      let sighting ← scene.trace hit.mirrored (depth + 1) greatestDepth
      return mix (scene.materialOf hit) color (scene.incident sighting) := by
  obtain ⟨renderable, present, material⟩ := exists_material searched
  rw [material] at mirrored
  rw [shade, present, material]
  simp only [mirrored, and_self, if_true]

end Hit

/-- **Tracing a ray works out what is seen along its chain.** -/
theorem trace_eq_see (scene : Scene S) (ray : Ray S) (depth greatestDepth : Nat) :
    scene.trace ray depth greatestDepth = scene.see (scene.chain (greatestDepth - depth) ray) := by
  generalize left : greatestDepth - depth = levels
  fun_induction scene.chain levels ray generalizing depth with
  | case1 levels ray fault searched =>
    rw [trace, searched]
    rfl
  | case2 levels ray searched =>
    rw [trace, searched]
    rfl
  | case3 ray hit searched mirrors =>
    have deepest : ¬depth < greatestDepth := by omega
    rw [trace_of_hit searched, shade_of_not_mirrored searched depth greatestDepth (by tauto), see]
  | case4 ray hit searched mirrors levels ih =>
    have deeper : depth < greatestDepth := by omega
    rw [trace_of_hit searched, shade_of_mirrored searched ⟨deeper, mirrors⟩, see,
      ih (depth + 1) (by omega)]
  | case5 levels ray hit searched matte =>
    rw [trace_of_hit searched, shade_of_not_mirrored searched depth greatestDepth (by tauto), see]

end Scene

end RayTracer
