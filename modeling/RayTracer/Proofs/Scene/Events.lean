import RayTracer.Proofs.Scene.Chain
import RayTracer.Proofs.Scene.Effects
import RayTracer.Proofs.Scene.SafePoint
import Mathlib.Data.List.ProdSigma
import Mathlib.Data.List.TakeWhile

/-!
# The events of tracing a ray

Tracing counts every hit on the chain of a ray once, and at every hit the lights that
reach it (`Scene.tally_see`). So the events are bounded by the levels of recursion and
the number of lights, and they depend on nothing but the chain
(`Scene.trace_follows`).

A query may fault, in the search for a hit or in the search for an obstacle in front of
a light, and what comes after is not counted. The hits that are counted are those up to
the first at which a search for an obstacle faults (`Scene.followed`), and the lights are
those before that fault (`Scene.lit`). Without a fault these are all hits, and at every
hit all lights without an obstacle.
-/

set_option autoImplicit false

namespace RayTracer

@[simp] theorem Tally.mk_add_mk (intersections shadings moreIntersections moreShadings : Nat) :
    (⟨intersections, shadings⟩ + ⟨moreIntersections, moreShadings⟩ : Tally) =
      ⟨intersections + moreIntersections, shadings + moreShadings⟩ :=
  rfl

namespace Scene

variable {S : Type} [Scalar S]

/-! ## What is counted -/

/-- The search for an obstacle on the ray from a light to the point slightly above a hit. -/
def obstructed (scene : Scene S) (pair : Intersection S × Light S) : Except OutOfRange Bool :=
  let toSurface := pair.1.safePoint - pair.2.position
  scene.any (.along pair.2.position toSurface) toSurface.norm

/-- The search for an obstacle between a light and a hit does not fault. -/
def answers (scene : Scene S) (pair : Intersection S × Light S) : Bool :=
  (scene.obstructed pair).isOk

/-- There is no obstacle between a light and a hit. -/
def reaches (scene : Scene S) (pair : Intersection S × Light S) : Bool :=
  match scene.obstructed pair with
  | .ok hidden => !hidden
  | .error _ => false

/-- A hit is in the shadow when there is an obstacle on the ray from the light to it. -/
theorem shadowed_eq_obstructed (scene : Scene S) (hit : Intersection S) (light : Light S) :
    scene.shadowed hit.safePoint light = scene.obstructed (hit, light) :=
  rfl

/-- The pairs of a hit and a light that reaches it, up to a fault. -/
def lit (scene : Scene S) (hits : List (Intersection S)) : List (Intersection S × Light S) :=
  ((hits ×ˢ scene.lights).takeWhile scene.answers).filter scene.reaches

/-- No search for an obstacle at a hit faults. -/
abbrev AnswersAll (scene : Scene S) (hit : Intersection S) : Prop :=
  ∀ light ∈ scene.lights, scene.answers (hit, light) = true

/-- The hits on a chain up to a fault. -/
def followed (scene : Scene S) : Chain S → List (Intersection S)
  | .fault _ | .miss => []
  | .last hit _ => [hit]
  | .mirror hit next => if scene.AnswersAll hit then hit :: scene.followed next else [hit]

theorem lit_singleton (scene : Scene S) (hit : Intersection S) :
    scene.lit [hit] =
      ((scene.lights.map (Prod.mk hit)).takeWhile scene.answers).filter scene.reaches := by
  simp [lit]

theorem lit_cons {scene : Scene S} {hit : Intersection S} (answersAll : scene.AnswersAll hit)
    (rest : List (Intersection S)) :
    scene.lit (hit :: rest) = scene.lit [hit] ++ scene.lit rest := by
  have here : ∀ pair ∈ scene.lights.map (Prod.mk hit), scene.answers pair = true :=
    List.forall_mem_map.mpr answersAll
  rw [lit_singleton, lit, List.product_cons, List.takeWhile_append_of_pos here, List.filter_append,
    List.takeWhile_eq_self_iff.mpr here, lit]

theorem length_lit_le (scene : Scene S) (hits : List (Intersection S)) :
    (scene.lit hits).length ≤ hits.length * scene.lights.length := by
  rw [← List.length_product]
  exact (List.filter_sublist.trans (List.takeWhile_sublist _)).length_le

/-- One light is counted when it reaches the hit. -/
theorem addContribution_cases (scene : Scene S) (material : Material S) (hit : Intersection S)
    (color : Color S) (light : Light S) :
    (scene.answers (hit, light) = false ∧ ∃ fault,
      scene.addContribution material hit color light = ⟨.error fault, 0⟩) ∨
    (scene.answers (hit, light) = true ∧ ∃ result,
      scene.addContribution material hit color light =
        ⟨.ok result, ⟨0, if scene.reaches (hit, light) then 1 else 0⟩⟩) := by
  cases answered : scene.obstructed (hit, light) with
  | error fault =>
    refine .inl ⟨by rw [answers, answered]; rfl, fault, ?_⟩
    rw [addContribution, shadowed_eq_obstructed, answered]
    rfl
  | ok hidden =>
    refine .inr ⟨by rw [answers, answered]; rfl, ?_⟩
    rw [addContribution, shadowed_eq_obstructed, reaches, answered]
    cases hidden with
    | true => exact ⟨_, rfl⟩
    | false => exact ⟨_, rfl⟩

/-- The lights of a scene are asked for in their order, and those that reach the hit
are counted. -/
theorem localColor_counts (scene : Scene S) (material : Material S) (hit : Intersection S) :
    (scene.localColor material hit).tally = ⟨0, (scene.lit [hit]).length⟩ ∧
      ((scene.localColor material hit).Succeeds ↔ scene.AnswersAll hit) := by
  rw [localColor, lit_singleton, AnswersAll]
  generalize (0 : Color S) = start
  induction scene.lights generalizing start with
  | nil => exact ⟨rfl, iff_of_true (Counted.succeeds_pure start) (List.forall_mem_nil _)⟩
  | cons light rest ih =>
    rw [List.foldlM_cons, List.map_cons, List.forall_mem_cons, Counted.succeeds_bind_iff]
    obtain ⟨answers, fault, faulted⟩ | ⟨answers, color, added⟩ :=
      scene.addContribution_cases material hit start light
    · rw [Counted.bind_of_error (congrArg Counted.outcome faulted), faulted,
        List.takeWhile_cons_of_neg (by simp [answers])]
      refine ⟨rfl, iff_of_false ?_ ?_⟩
      · rintro ⟨⟨value, isValue⟩, -⟩
        cases isValue
      · rintro ⟨asked, -⟩
        rw [answers] at asked
        cases asked
    · obtain ⟨tally, succeeds⟩ := ih color
      rw [Counted.bind_of_ok (congrArg Counted.outcome added), added, tally,
        List.takeWhile_cons_of_pos answers, List.filter_cons]
      refine ⟨Tally.ext rfl ?_, ?_⟩
      · change _ + _ = _
        split
        · exact Nat.add_comm 1 _
        · exact Nat.zero_add _
      · simpa [answers, Counted.Succeeds] using succeeds

omit [Scalar S] in
theorem succeeds_met_iff {light : Counted (Color S)} : (met light).Succeeds ↔ light.Succeeds := by
  rw [met_eq, Counted.Succeeds, Counted.Succeeds]
  cases light.outcome <;> simp [Except.map]

/-- **What is seen along a chain is counted exactly.** -/
theorem tally_see (scene : Scene S) (chain : Chain S) :
    (scene.see chain).tally =
      ⟨(scene.followed chain).length, (scene.lit (scene.followed chain)).length⟩ := by
  induction chain with
  | fault fault => rfl
  | miss => rfl
  | last hit cutOff =>
    rw [see, met_eq, (scene.localColor_counts _ hit).1, followed]
    simp
  | mirror hit next ih =>
    obtain ⟨tally, succeeds⟩ := scene.localColor_counts (scene.materialOf hit) hit
    rw [see, met_eq, followed]
    cases isOutcome : (scene.localColor (scene.materialOf hit) hit).outcome with
    | ok color =>
      have answersAll : scene.AnswersAll hit := succeeds.mp ⟨color, isOutcome⟩
      rw [if_pos answersAll, Counted.bind_of_ok isOutcome, Counted.bind_pure_comp, tally, ih,
        lit_cons answersAll (scene.followed next)]
      simp [Nat.add_comm]
    | error fault =>
      have faults : ¬scene.AnswersAll hit := by
        rw [← succeeds, Counted.Succeeds, isOutcome]
        simp
      rw [if_neg faults, Counted.bind_of_error isOutcome, tally]
      simp

/-- There is something to see along a chain when no query on the way faults. -/
theorem succeeds_see_iff (scene : Scene S) (chain : Chain S) :
    (scene.see chain).Succeeds ↔
      chain.ending ≠ .fault ∧ ∀ hit ∈ chain.hits, scene.AnswersAll hit := by
  induction chain with
  | fault fault => simp [see, Counted.Succeeds, Counted.uncounted, Chain.ending]
  | miss => simp [see, Counted.succeeds_pure, Chain.ending, Chain.hits]
  | last hit cutOff =>
    rw [see, succeeds_met_iff, (scene.localColor_counts _ hit).2]
    cases cutOff <;> simp [Chain.ending, Chain.hits]
  | mirror hit next ih =>
    obtain ⟨-, succeeds⟩ := scene.localColor_counts (scene.materialOf hit) hit
    rw [see, succeeds_met_iff, Chain.ending, Chain.hits, List.forall_mem_cons, and_left_comm, ← ih,
      ← succeeds, Counted.succeeds_bind_iff]
    refine and_congr_right fun succeeds => ?_
    obtain ⟨color, isColor⟩ := succeeds
    simp only [Counted.succeeds_bind_pure_iff]
    exact ⟨fun later => later color isColor, fun later _ _ => later⟩

/-- Without a fault all hits are followed. -/
theorem followed_eq_hits {scene : Scene S} {chain : Chain S}
    (answersAll : ∀ hit ∈ chain.hits, scene.AnswersAll hit) :
    scene.followed chain = chain.hits := by
  induction chain with
  | fault fault => rfl
  | miss => rfl
  | last hit cutOff => rfl
  | mirror hit next ih =>
    obtain ⟨here, later⟩ := List.forall_mem_cons.mp answersAll
    rw [followed, if_pos here, ih later, Chain.hits]

theorem followed_prefix_hits (scene : Scene S) (chain : Chain S) :
    scene.followed chain <+: chain.hits := by
  induction chain with
  | fault fault => exact List.nil_prefix
  | miss => exact List.nil_prefix
  | last hit cutOff => exact List.prefix_rfl
  | mirror hit next ih =>
    rw [followed, Chain.hits]
    split
    · exact (List.prefix_cons_inj hit).mpr ih
    · exact (List.prefix_cons_inj hit).mpr List.nil_prefix

theorem lit_of_answersAll {scene : Scene S} {hits : List (Intersection S)}
    (answersAll : ∀ hit ∈ hits, scene.AnswersAll hit) :
    scene.lit hits = (hits ×ˢ scene.lights).filter scene.reaches := by
  rw [lit, List.takeWhile_eq_self_iff.mpr]
  rintro ⟨hit, light⟩ member
  obtain ⟨isHit, isLight⟩ := List.mem_product.mp member
  exact answersAll hit isHit light isLight

/-! ## Two mirrors that face each other -/

section FacingMirrors

open Exact

/-- A ray straight up or down. -/
noncomputable def upright (height way : ℝ) : Ray ℝ := ⟨⟨0, 0, height⟩, ⟨0, 0, way⟩⟩

/-- A level plane with its normal up or down. -/
noncomputable def level (height side : ℝ) : Figure := .plane ⟨0, 0, height⟩ ⟨0, 0, side⟩

/-- A white light at a height. -/
noncomputable def lamp (height : ℝ) : Light Exact :=
  ⟨⟨.splat 1, .splat 1, .splat 1⟩, .ofReal ⟨0, 0, height⟩⟩

/-- Two mirrors that face each other, below and above the origin. One light is below the lower
mirror, and one is at the origin. -/
noncomputable def facingMirrors : Scene Exact :=
  let mirror : Material Exact := .phong ⟨.splat 1, .splat 1, .splat 1, real 0.5, real 1⟩
  { empty with
    renderables := [⟨(level (-1) 1).shape, mirror⟩, ⟨(level 1 (-1)).shape, mirror⟩]
    lights := [lamp (-1.5), lamp 0] }

theorem direction_upright {way : ℝ} (unit : way = 1 ∨ way = -1) :
    Vec3.direction ⟨0, 0, way⟩ = ⟨0, 0, way⟩ := by
  obtain rfl | rfl := unit <;> exact Vec3.direction_of_isUnit (by norm_num [Vec3.inner])

/-- An upright ray hits a level plane after the difference of the heights. -/
theorem closest_level {way side : ℝ} (unit : way = 1 ∨ way = -1) (unitSide : side = 1 ∨ side = -1)
    (height other : ℝ) (bound : Exact) :
    (level other side).shape.closest (.ofReal (upright height way)) bound =
      .ok (if InRange (real ((other - height) * way)) bound then
        some ⟨real ((other - height) * way), .ofReal ⟨0, 0, side⟩, 0⟩ else none) := by
  have isSide := direction_upright unitSide
  have steep :
      1e-9 ≤ |Vec3.inner (upright height way).direction (Vec3.direction ⟨0, 0, side⟩)| := by
    rw [isSide]
    obtain rfl | rfl := unit <;> obtain rfl | rfl := unitSide <;> norm_num [upright, Vec3.inner]
  have reaches : Vec3.inner (Vec3.minus ⟨0, 0, other⟩ (upright height way).origin)
      (Vec3.direction ⟨0, 0, side⟩) = (other - height) * way *
        Vec3.inner (upright height way).direction (Vec3.direction ⟨0, 0, side⟩) := by
    rw [isSide]
    obtain rfl | rfl := unit
    · norm_num [upright, Vec3.inner, Vec3.minus, Vec3.zipWith]
    · norm_num [upright, Vec3.inner, Vec3.minus, Vec3.zipWith]
      ring
  have found := Figure.closest_through steep reaches bound
  rw [isSide] at found
  exact congrArg Except.ok found

/-- The safe point of a hit is at a height between the mirrors, and not where the light is. -/
structure IsBounce (hit : Intersection Exact) (height : ℝ) : Prop where
  safePoint_eq : hit.safePoint = .ofReal ⟨0, 0, height⟩
  above : -1 < height
  below : height < 1
  off : 1e-9 < |height|

/-- A ray down from between the mirrors hits the lower one. -/
theorem closest_down {height : ℝ} (above : -1 < height) (below : height < 1) :
    facingMirrors.closest (.ofReal (upright height (-1))) infinity =
      .ok (some (.ofHit (.ofReal (upright height (-1))) 0
        ⟨real ((-1 - height) * -1), .ofReal ⟨0, 0, 1⟩, 0⟩)) := by
  have onLower := closest_level (.inr rfl) (.inl rfl) height (-1) infinity
  have onUpper := closest_level (.inr rfl) (.inr rfl) height 1 (real ((-1 - height) * -1))
  rw [if_pos (inRange_infinity_iff.mpr (by linarith))] at onLower
  rw [if_neg fun inRange => by linarith [(inRange_real_iff.mp inRange).1]] at onUpper
  exact (nearestFrom_cons (closer_of_some onLower trivial) _).trans
    (nearestFrom_cons (closer_of_none onUpper) [])

/-- A ray up from between the mirrors hits the upper one. -/
theorem closest_up {height : ℝ} (above : -1 < height) (below : height < 1) :
    facingMirrors.closest (.ofReal (upright height 1)) infinity =
      .ok (some (.ofHit (.ofReal (upright height 1)) 1
        ⟨real ((1 - height) * 1), .ofReal ⟨0, 0, -1⟩, 0⟩)) := by
  have onLower := closest_level (.inl rfl) (.inl rfl) height (-1) infinity
  have onUpper := closest_level (.inl rfl) (.inr rfl) height 1 infinity
  rw [if_neg fun inRange => by linarith [inRange_infinity_iff.mp inRange]] at onLower
  rw [if_pos (inRange_infinity_iff.mpr (by linarith))] at onUpper
  exact (nearestFrom_cons (closer_of_none onLower) _).trans
    (nearestFrom_cons (closer_of_some onUpper trivial) [])

/-- An upright ray that hits a plane facing it is mirrored straight back. -/
theorem mirrored_upright {way side : ℝ} (facing : way = 1 ∧ side = -1 ∨ way = -1 ∧ side = 1)
    (height other : ℝ) (number : Nat) :
    let hit := Intersection.ofHit (.ofReal (upright height way)) number
      ⟨real ((other - height) * way), .ofReal ⟨0, 0, side⟩, 0⟩
    hit.safePoint = .ofReal ⟨0, 0, other + 1e-9 * side⟩ ∧
      hit.mirrored = .ofReal (upright (other + 1e-9 * side) side) := by
  intro hit
  have unitSide : side = 1 ∨ side = -1 := facing.symm.imp And.right And.right
  have isNormal : hit.normal =
      .ofReal ((level other side).normalAt (upright height way) ((other - height) * way)) :=
    congrArg Vec3.ofReal (direction_upright unitSide).symm
  have lifted : (level other side).lifted (upright height way) ((other - height) * way) =
      ⟨0, 0, other + 1e-9 * side⟩ := by
    obtain ⟨rfl, rfl⟩ | ⟨rfl, rfl⟩ := facing <;>
      norm_num [Figure.lifted, upright, level, Figure.normalAt, Ray.follow, direction_upright,
        Vec3.plus, Vec3.times, Vec3.map, Vec3.zipWith]
  have heading : (level other side).mirroredHeading (upright height way)
      ((other - height) * way) = ⟨0, 0, side⟩ := by
    rw [← direction_upright unitSide]
    obtain ⟨rfl, rfl⟩ | ⟨rfl, rfl⟩ := facing <;>
      norm_num [Figure.mirroredHeading, upright, level, Figure.normalAt, direction_upright,
        Vec3.mirror, Vec3.minus, Vec3.times, Vec3.map, Vec3.zipWith, Vec3.inner]
  constructor
  · exact (Figure.safePoint_ofHit number rfl isNormal).trans (congrArg Vec3.ofReal lifted)
  · refine (Figure.mirrored_ofHit number rfl isNormal).trans ?_
    rw [lifted, heading, upright]

/-- Between the mirrors an upright ray is mirrored and comes back. -/
theorem exists_bounce {height way : ℝ} (above : -1 < height) (below : height < 1)
    (unit : way = 1 ∨ way = -1) : ∃ hit next side,
      facingMirrors.closest (.ofReal (upright height way)) infinity = .ok (some hit) ∧
      0 < (facingMirrors.materialOf hit).reflectance ∧ IsBounce hit next ∧
      (side = 1 ∨ side = -1) ∧ hit.mirrored = .ofReal (upright next side) := by
  have half : (0 : Exact) < real 0.5 := by
    rw [zero_eq_real, real_lt_real]
    norm_num
  obtain rfl | rfl := unit
  · obtain ⟨safe, mirrored⟩ := mirrored_upright (.inl ⟨rfl, rfl⟩) height 1 1
    exact ⟨_, _, -1, closest_up above below, half,
      ⟨safe, by norm_num, by norm_num, by norm_num [abs_of_pos]⟩, .inr rfl, mirrored⟩
  · obtain ⟨safe, mirrored⟩ := mirrored_upright (.inr ⟨rfl, rfl⟩) height (-1) 0
    exact ⟨_, _, 1, closest_down above below, half,
      ⟨safe, by norm_num, by norm_num, by norm_num [abs_of_neg]⟩, .inl rfl, mirrored⟩

theorem hits_chain_facingMirrors (levels : Nat) {height way : ℝ} (above : -1 < height)
    (below : height < 1) (unit : way = 1 ∨ way = -1) :
    let hits := (facingMirrors.chain levels (.ofReal (upright height way))).hits
    hits.length = levels + 1 ∧ ∀ hit ∈ hits, ∃ height, IsBounce hit height := by
  induction levels generalizing height way with
  | zero =>
    obtain ⟨hit, next, side, searched, mirrors, bounce, -⟩ := exists_bounce above below unit
    rw [chain, Exact.scalarInfinity_eq, searched]
    simp only [mirrors, if_true, Chain.hits, List.mem_singleton, forall_eq]
    exact ⟨rfl, next, bounce⟩
  | succ levels ih =>
    obtain ⟨hit, next, side, searched, mirrors, bounce, unitSide, again⟩ :=
      exists_bounce above below unit
    obtain ⟨length, bounces⟩ := ih bounce.above bounce.below unitSide
    rw [chain, Exact.scalarInfinity_eq, searched]
    simp only [mirrors, if_true, Chain.hits, List.forall_mem_cons, again]
    exact ⟨congrArg Nat.succ length, ⟨next, bounce⟩, bounces⟩

theorem any_level {way side : ℝ} (unit : way = 1 ∨ way = -1) (unitSide : side = 1 ∨ side = -1)
    (height other : ℝ) (bound : Exact) :
    (level other side).shape.any (.ofReal (upright height way)) bound =
      .ok (decide (InRange (real ((other - height) * way)) bound)) := by
  have found := Except.ok.inj (closest_level unit unitSide height other bound)
  refine congrArg Except.ok ((congrArg Option.isSome found).trans ?_)
  by_cases inRange : InRange (real ((other - height) * way)) bound <;> simp [inRange]

/-- An upright ray meets one of the mirrors where it passes its height in range. -/
theorem any_facingMirrors {way : ℝ} (unit : way = 1 ∨ way = -1) (height distance : ℝ) :
    facingMirrors.any (.ofReal (upright height way)) (real distance) =
      .ok (decide (InRange (real ((-1 - height) * way)) (real distance) ∨
        InRange (real ((1 - height) * way)) (real distance))) := by
  have onLower := any_level unit (.inl rfl) height (-1) (real distance)
  have onUpper := any_level unit (.inr rfl) height 1 (real distance)
  rw [any, facingMirrors]
  simp only [anyOf, onLower, onUpper, Bool.decide_or]
  cases decide (InRange (real ((-1 - height) * way)) (real distance)) <;>
    cases decide (InRange (real ((1 - height) * way)) (real distance)) <;> rfl

/-- The ray from a light straight above or below the point above a hit. -/
theorem obstructed_lamp {scene : Scene Exact} {hit : Intersection Exact}
    {height way other distance : ℝ} (isSafe : hit.safePoint = .ofReal ⟨0, 0, height⟩)
    (unit : way = 1 ∨ way = -1) (far : 1e-9 < distance)
    (apart : height - other = distance * way) :
    scene.obstructed (hit, lamp other) =
      scene.any (.ofReal (upright other way)) (real distance) := by
  have isUnit : Vec3.inner ⟨0, 0, way⟩ ⟨0, 0, way⟩ = 1 := by
    obtain rfl | rfl := unit <;> norm_num [Vec3.inner]
  have toSurface : hit.safePoint - (lamp other).position =
      .ofReal (Vec3.times distance ⟨0, 0, way⟩) := by
    rw [isSafe, lamp, Vec3.ofReal_sub_ofReal]
    simp [Vec3.minus, Vec3.zipWith, Vec3.times, Vec3.map, apart]
  rw [obstructed]
  dsimp only
  rw [toSurface, lamp, Ray.along_ofReal, Vec3.direction_times_of_isUnit isUnit far,
    Vec3.norm_ofReal, Vec3.length_times_of_isUnit isUnit (by linarith), upright]

/-- The light below the mirrors does not reach what is hit on them, and the light between them
does. -/
theorem reaches_facingMirrors {hit : Intersection Exact} {height : ℝ}
    (bounce : IsBounce hit height) :
    facingMirrors.reaches (hit, lamp (-1.5)) = false ∧
      facingMirrors.reaches (hit, lamp 0) = true := by
  obtain ⟨isSafe, above, below, off⟩ := bounce
  rw [reaches, reaches]
  constructor
  · have far : 1e-9 < height + 1.5 := by linarith
    rw [obstructed_lamp isSafe (.inl rfl) far (by ring), any_facingMirrors (.inl rfl),
      decide_eq_true]
    · rfl
    · exact .inl (inRange_real_iff.mpr ⟨by linarith, by linarith⟩)
  · obtain higher | lower := lt_abs.mp off
    · rw [obstructed_lamp isSafe (.inl rfl) higher (by ring), any_facingMirrors (.inl rfl),
        decide_eq_false]
      · rfl
      · rintro (onLower | onUpper)
        · linarith [(inRange_real_iff.mp onLower).1]
        · linarith [(inRange_real_iff.mp onUpper).2]
    · rw [obstructed_lamp isSafe (.inr rfl) lower (by ring), any_facingMirrors (.inr rfl),
        decide_eq_false]
      · rfl
      · rintro (onLower | onUpper)
        · linarith [(inRange_real_iff.mp onLower).2]
        · linarith [(inRange_real_iff.mp onUpper).1]

/-- One of the two lights reaches every hit on the mirrors. -/
theorem filter_reaches_facingMirrors {hits : List (Intersection Exact)}
    (bounces : ∀ hit ∈ hits, ∃ height, IsBounce hit height) :
    (hits ×ˢ facingMirrors.lights).filter facingMirrors.reaches = hits.map (·, lamp 0) := by
  induction hits with
  | nil => rfl
  | cons hit rest ih =>
    obtain ⟨⟨height, bounce⟩, others⟩ := List.forall_mem_cons.mp bounces
    obtain ⟨hidden, lit⟩ := reaches_facingMirrors bounce
    have here : (facingMirrors.lights.map (Prod.mk hit)).filter facingMirrors.reaches =
        [(hit, lamp 0)] := by
      change List.filter _ [(hit, lamp (-1.5)), (hit, lamp 0)] = _
      rw [List.filter_cons_of_neg (by simp [hidden]), List.filter_cons_of_pos lit, List.filter_nil]
    rw [List.product_cons, List.filter_append, here, ih others]
    rfl

theorem wellFormed_facingMirrors : WellFormed facingMirrors.renderables := by
  intro renderable member
  obtain rfl | rfl := by simpa [facingMirrors] using member
  · trivial
  · trivial

end FacingMirrors

/-! ## Tracing -/

/-- **Tracing follows one chain of rays and counts it exactly.** What a ray sees is what
is seen along its chain. The counters advance by the hits on it, at most one more than
there are levels left, and by the pairs of a hit and a light that reaches it, at most as
many as there are pairs. Tracing has a result exactly when no query on the way faults, as
in a scene of well-formed shapes; then these are all hits on the chain, and all pairs
without an obstacle between them. Nothing depends on the depths but through the number of
levels left, and not even on that once the chain ends in a miss or at a surface that does
not mirror. -/
theorem trace_follows [IsTrans S (· < ·)] (scene : Scene S) (ray : Ray S)
    (depth greatestDepth : Nat) :
    let levels := greatestDepth - depth
    let chain := scene.chain levels ray
    let hits := scene.followed chain
    let traced := scene.trace ray depth greatestDepth
    traced = scene.see chain ∧
    (scene.count traced.tally).counters =
      ⟨scene.counters.intersections + UInt64.ofNat hits.length,
        scene.counters.shadings + UInt64.ofNat (scene.lit hits).length⟩ ∧
    (traced.tally.intersections = hits.length ∧ hits.length ≤ levels + 1) ∧
    (traced.tally.shadings = (scene.lit hits).length ∧
      (scene.lit hits).length ≤ hits.length * scene.lights.length) ∧
    ((∃ sighting, traced.outcome = .ok sighting) ↔
      chain.ending ≠ .fault ∧ ∀ hit ∈ chain.hits, ∀ light ∈ scene.lights,
        scene.answers (hit, light) = true) ∧
    (∀ sighting, traced.outcome = .ok sighting →
      hits = chain.hits ∧ scene.lit hits = (chain.hits ×ˢ scene.lights).filter scene.reaches) ∧
    (WellFormed scene.renderables → ∃ sighting, traced.outcome = .ok sighting) ∧
    (∀ otherDepth otherGreatest, otherGreatest - otherDepth = levels →
      scene.trace ray otherDepth otherGreatest = traced) ∧
    (chain.ending = .miss ∨ chain.ending = .matte →
      ∀ larger, greatestDepth ≤ larger → scene.trace ray depth larger = traced) := by
  intro levels chain hits traced
  have follows : traced = scene.see chain := scene.trace_eq_see ray depth greatestDepth
  have tally : traced.tally = ⟨hits.length, (scene.lit hits).length⟩ :=
    (congrArg Counted.tally follows).trans (scene.tally_see chain)
  have succeeds_iff := scene.succeeds_see_iff chain
  rw [← follows] at succeeds_iff
  refine ⟨follows, ?_, ⟨congrArg Tally.intersections tally, ?_⟩,
    ⟨congrArg Tally.shadings tally, scene.length_lit_le hits⟩, succeeds_iff, ?_, ?_, ?_, ?_⟩
  · rw [count, tally]
    rfl
  · exact (scene.followed_prefix_hits chain).length_le.trans (scene.length_hits_chain_le levels ray)
  · intro sighting isSighting
    have answersAll := (succeeds_iff.mp ⟨sighting, isSighting⟩).2
    have all : hits = chain.hits := followed_eq_hits answersAll
    exact ⟨all, all ▸ lit_of_answersAll (all ▸ answersAll)⟩
  · exact fun wellFormed => succeeds_trace wellFormed ray depth greatestDepth
  · intro otherDepth otherGreatest same
    rw [trace_eq_see, same]
    exact follows.symm
  · intro ended larger more
    have complete : chain.ending ≠ .cutOff := by
      obtain ended | ended := ended <;> simp [ended]
    rw [trace_eq_see, scene.chain_of_le (Nat.sub_le_sub_right more depth) complete]
    exact follows.symm

/-- Between the mirrors a ray is mirrored until it is cut off. One of the lights is counted at
every hit, and the other one never. -/
theorem trace_follows_mirrors :
    let ray : Ray Exact := .ofReal (upright 0 (-1))
    let traced := facingMirrors.trace ray 2 7
    (∃ sighting, traced.outcome = .ok sighting) ∧
      facingMirrors.lights.length = 2 ∧ traced.tally = ⟨6, 6⟩ ∧
      (facingMirrors.count traced.tally).counters = ⟨6, 6⟩ ∧
      facingMirrors.trace ray 0 5 = traced := by
  intro ray traced
  obtain ⟨length, bounces⟩ := hits_chain_facingMirrors 5 neg_one_lt_zero zero_lt_one (.inr rfl)
  obtain ⟨-, counters, ⟨intersections, -⟩, ⟨shadings, -⟩, -, all, succeeds, shift, -⟩ :=
    trace_follows facingMirrors ray 2 7
  obtain ⟨sighting, isSighting⟩ := succeeds wellFormed_facingMirrors
  obtain ⟨hits, lit⟩ := all sighting isSighting
  rw [filter_reaches_facingMirrors bounces] at lit
  have six : ((facingMirrors.chain 5 ray).hits.map (·, lamp 0)).length = 6 :=
    (List.length_map _).trans length
  rw [lit, six] at shadings counters
  rw [hits, length] at intersections counters
  exact ⟨⟨sighting, isSighting⟩, rfl, Tally.ext intersections shadings, counters, shift 0 5 rfl⟩

end Scene

end RayTracer
