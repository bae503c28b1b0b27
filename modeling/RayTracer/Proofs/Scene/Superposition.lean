import RayTracer.Proofs.Scene.Picture
import RayTracer.Proofs.Scene.Radiance
import Mathlib.Data.List.Perm.Basic

/-!
# Superposition of lights

What a ray hits has nothing to do with the lights, and in exact arithmetic every light
adds its part to what the ray sees, whatever the other lights are. A scene without lights
shows only the background in its mirrors. So the colours under two lists of lights add up
to the colour under both together and this remainder (`Scene.trace_superposes`).

As every light has its own summand, neither a colour nor a picture depends on the order of
the lights.
-/

set_option autoImplicit false

namespace RayTracer

open Exact

namespace Scene

/-! ## Other lights -/

section Lights

variable {S : Type} [Scalar S] (scene : Scene S) (lights : List (Light S))

/-- The scene with other lights. -/
def litBy : Scene S := { scene with lights }

theorem chain_litBy (levels : Nat) (ray : Ray S) :
    (scene.litBy lights).chain levels ray = scene.chain levels ray := by
  have same : (scene.litBy lights).renderables = scene.renderables := rfl
  exact chain_congr same levels ray

theorem localLight_litBy (hit : Intersection S) :
    (scene.litBy lights).localLight hit =
      sumOf (lights.map (scene.contribution (scene.materialOf hit) hit)) :=
  rfl

theorem clears_litBy_iff {chain : Chain S} :
    (scene.litBy lights).Clears chain ↔ chain.ending ≠ .fault ∧
      ∀ hit ∈ chain.hits, ∀ light ∈ lights, scene.answers (hit, light) = true :=
  Iff.rfl

end Lights

/-! ## Adding lights -/

variable {scene : Scene Exact}

theorem clears_append_iff {first second : List (Light Exact)} {chain : Chain Exact} :
    (scene.litBy (first ++ second)).Clears chain ↔
      (scene.litBy first).Clears chain ∧ (scene.litBy second).Clears chain := by
  simp only [clears_litBy_iff, List.forall_mem_append]
  constructor
  · rintro ⟨noFault, answered⟩
    exact ⟨⟨noFault, fun hit member => (answered hit member).1⟩,
      noFault, fun hit member => (answered hit member).2⟩
  · rintro ⟨⟨noFault, one⟩, -, other⟩
    exact ⟨noFault, fun hit member => ⟨one hit member, other hit member⟩⟩

theorem Clears.litBy_nil {lights : List (Light Exact)} {chain : Chain Exact}
    (clears : (scene.litBy lights).Clears chain) : (scene.litBy []).Clears chain :=
  ⟨clears.1, by simp [AnswersAll, litBy]⟩

theorem add_add_add_comm (first second third fourth : Color Exact) :
    first + second + (third + fourth) = first + third + (second + fourth) := by
  rw [Vec3.add_assoc, Vec3.add_assoc, ← Vec3.add_assoc second, Vec3.add_comm second,
    Vec3.add_assoc]

/-- A mirror mixes two pairs of colours as it mixes their sums. -/
theorem mix_add_mix {material : Material Exact} (finite : material.IsFinite)
    (color other incident more : Color Exact) :
    mix material color incident + mix material other more =
      mix material (color + other) (incident + more) := by
  obtain ⟨fraction, isFraction⟩ := finite.reflectance
  have scaled (factor : ℝ) (first second : Color Exact) :
      real factor • (first + second) = real factor • first + real factor • second :=
    Vec3.ext_get fun axis => by simp only [Vec3.get_add, Vec3.get_smul, real_mul_add]
  have tinted : (incident + more) * material.absorption =
      incident * material.absorption + more * material.absorption := by
    refine Vec3.ext_get fun axis => ?_
    obtain ⟨factor, isFactor⟩ := finite.absorption.get axis
    simp only [Vec3.get_add, Vec3.get_mul, isFactor, add_mul_real]
  simp only [mix, isFraction, one_eq_real, real_sub_real]
  rw [add_add_add_comm, tinted, scaled, scaled]

/-- **The light along a chain is superposed.** -/
theorem radiance_append {chain : Chain Exact}
    (finite : ∀ hit ∈ chain.hits, (scene.materialOf hit).IsFinite)
    (first second : List (Light Exact)) :
    (scene.litBy (first ++ second)).radiance chain + (scene.litBy []).radiance chain =
      (scene.litBy first).radiance chain + (scene.litBy second).radiance chain := by
  have added (hit : Intersection Exact) :
      (scene.litBy (first ++ second)).localLight hit + (scene.litBy []).localLight hit =
        (scene.litBy first).localLight hit + (scene.litBy second).localLight hit := by
    simp only [localLight_litBy, List.map_append, sumOf_append]
    exact Vec3.add_zero _
  induction chain with
  | fault fault => rfl
  | miss => rfl
  | last hit cutOff => exact added hit
  | mirror hit next ih =>
    obtain ⟨here, later⟩ := List.forall_mem_cons.mp finite
    change mix (scene.materialOf hit) _ _ + mix (scene.materialOf hit) _ _ =
      mix (scene.materialOf hit) _ _ + mix (scene.materialOf hit) _ _
    rw [mix_add_mix here, mix_add_mix here, added, ih later]

theorem color_sightAlong_append {chain : Chain Exact}
    (finite : ∀ hit ∈ chain.hits, (scene.materialOf hit).IsFinite)
    (first second : List (Light Exact)) :
    ((scene.litBy (first ++ second)).sightAlong chain).color +
        ((scene.litBy []).sightAlong chain).color =
      ((scene.litBy first).sightAlong chain).color +
        ((scene.litBy second).sightAlong chain).color := by
  by_cases empty : chain.hits.isEmpty
  · simp only [sightAlong, empty, if_true]
    rfl
  · simp only [sightAlong, empty, Bool.false_eq_true, if_false]
    exact radiance_append finite first second

theorem found_sightAlong (lights others : List (Light Exact)) (chain : Chain Exact) :
    ((scene.litBy lights).sightAlong chain).found =
      ((scene.litBy others).sightAlong chain).found := by
  by_cases empty : chain.hits.isEmpty <;> simp [sightAlong, empty]

/-! ## Other orders -/

section Perm

variable {first second : List (Light Exact)} (perm : first.Perm second)
include perm

theorem Clears.of_perm {chain : Chain Exact} (clears : (scene.litBy first).Clears chain) :
    (scene.litBy second).Clears chain :=
  ⟨clears.1, fun hit member light isLight =>
    clears.2 hit member light (perm.mem_iff.mpr isLight)⟩

theorem radiance_of_perm (chain : Chain Exact) :
    (scene.litBy second).radiance chain = (scene.litBy first).radiance chain := by
  have same (hit : Intersection Exact) :
      (scene.litBy second).localLight hit = (scene.litBy first).localLight hit := by
    rw [localLight_litBy, localLight_litBy]
    exact (sumOf_perm (perm.map _)).symm
  induction chain with
  | fault fault => rfl
  | miss => rfl
  | last hit cutOff => exact same hit
  | mirror hit next ih =>
    change mix (scene.materialOf hit) _ _ = mix (scene.materialOf hit) _ _
    rw [same, ih]

theorem sightAlong_of_perm (chain : Chain Exact) :
    (scene.litBy second).sightAlong chain = (scene.litBy first).sightAlong chain := by
  rw [sightAlong, sightAlong, radiance_of_perm perm]
  rfl

/-- As many lights reach the hits of a chain in one order as in the other. -/
theorem length_lit_of_perm {hits : List (Intersection Exact)}
    (answered : ∀ hit ∈ hits, (scene.litBy first).AnswersAll hit) :
    ((scene.litBy second).lit hits).length = ((scene.litBy first).lit hits).length := by
  have answeredToo : ∀ hit ∈ hits, (scene.litBy second).AnswersAll hit :=
    fun hit member light isLight => answered hit member light (perm.mem_iff.mpr isLight)
  rw [lit_of_answersAll answered, lit_of_answersAll answeredToo]
  exact ((List.Perm.product_left hits perm).filter scene.reaches).length_eq.symm

/-- **A ray that sees something sees the same under the same lights in another order.** -/
theorem trace_of_perm {ray : Ray Exact} {depth greatestDepth : Nat}
    (succeeds : ((scene.litBy first).trace ray depth greatestDepth).Succeeds) :
    (scene.litBy second).trace ray depth greatestDepth =
      (scene.litBy first).trace ray depth greatestDepth := by
  obtain ⟨sighting, isSighting⟩ := succeeds
  obtain ⟨clears, rfl⟩ := outcome_trace_eq_ok_iff.mp isSighting
  rw [chain_litBy] at clears isSighting
  have clearsToo := clears.of_perm perm
  refine Counted.ext ?_ ?_
  · rw [isSighting, ← sightAlong_of_perm perm]
    exact outcome_trace_eq_ok_iff.mpr (by rw [chain_litBy]; exact ⟨clearsToo, rfl⟩)
  · rw [trace_eq_see, trace_eq_see, tally_see, tally_see, chain_litBy, chain_litBy,
      followed_eq_hits clears.2, followed_eq_hits clearsToo.2, length_lit_of_perm perm clears.2]

theorem pixelColor_of_perm {camera : Camera Exact} {column row greatestDepth : Nat}
    (succeeds : ((scene.litBy first).pixelColor camera column row greatestDepth).Succeeds) :
    (scene.litBy second).pixelColor camera column row greatestDepth =
      (scene.litBy first).pixelColor camera column row greatestDepth := by
  have traced := trace_of_perm perm (Counted.succeeds_bind_iff.mp succeeds).1
  rw [pixelColor, pixelColor, traced]
  rfl

/-- **A picture does not depend on the order of the lights.** -/
theorem render_of_perm [Single Exact] {image : Image} {greatestDepth : Nat} {report : Report}
    (finished : ((scene.litBy first).render image greatestDepth).outcome = .finished report) :
    ((scene.litBy second).render image greatestDepth).outcome = .finished report ∧
      ((scene.litBy second).render image greatestDepth).image =
        ((scene.litBy first).render image greatestDepth).image := by
  cases checked : (scene.litBy first).check image.size with
  | error error =>
    rw [render, checked] at finished
    cases finished
  | ok camera =>
    obtain ⟨log, final, runs, complete, painted⟩ :=
      runs_paint (scene.litBy first) camera greatestDepth image
    have noFault : final.canvas.fault = none := by
      cases isFault : final.canvas.fault with
      | none => rfl
      | some fault =>
        rw [render, checked] at finished
        dsimp only at finished
        rw [← painted, isFault] at finished
        cases finished
    have clear := (fault_eq_none_iff runs complete).mp noFault
    have rows : ∀ row ∈ List.range image.rowCount,
        (scene.litBy second).rowEffects camera image greatestDepth row =
          (scene.litBy first).rowEffects camera image greatestDepth row := by
      intro row member
      obtain ⟨inHeight, succeeds⟩ := clear row (List.mem_range.mp member)
      rw [rowEffects, rowEffects, if_pos inHeight, if_pos inHeight]
      refine congrArg _ (List.flatMap_congr fun column inColumns => ?_)
      rw [pixelEffects, pixelEffects,
        pixelColor_of_perm perm (succeeds column (List.mem_range.mp inColumns))]
    have paintedToo : (scene.litBy second).paint camera greatestDepth image = final.canvas := by
      rw [painted, paint, paint]
      exact List.foldl_ext _ _ _ fun canvas row member => by rw [rows row member]
    rw [render_of_fault_eq_none _ checked painted.symm noFault] at finished ⊢
    have checkedToo : (scene.litBy second).check image.size = .ok camera := checked
    rw [render_of_fault_eq_none _ checkedToo paintedToo noFault]
    exact ⟨finished, rfl⟩

end Perm

/-! ## Tracing -/

theorem intersections_trace {lights : List (Light Exact)} {ray : Ray Exact}
    {depth greatestDepth : Nat}
    (clears : (scene.litBy lights).Clears (scene.chain (greatestDepth - depth) ray)) :
    ((scene.litBy lights).trace ray depth greatestDepth).tally.intersections =
      (scene.chain (greatestDepth - depth) ray).hits.length := by
  rw [trace_eq_see, tally_see, chain_litBy, followed_eq_hits clears.2]

theorem outcome_trace_litBy_iff {lights : List (Light Exact)} {ray : Ray Exact}
    {depth greatestDepth : Nat} {sighting : Sighting Exact} :
    ((scene.litBy lights).trace ray depth greatestDepth).outcome = .ok sighting ↔
      (scene.litBy lights).Clears (scene.chain (greatestDepth - depth) ray) ∧
        sighting = (scene.litBy lights).sightAlong (scene.chain (greatestDepth - depth) ray) := by
  rw [outcome_trace_eq_ok_iff, chain_litBy]

/-- **Lights are superposed.** Let the materials of a scene mirror by finite fractions, and
let a ray have something to see under one list of lights and under another. Then it has
under both together and without lights, and the colours of the former two add up to the
same as those of the latter two. It meets something under all lights or under none, and as
many rays do. Conversely it has something to see under each list alone when it has under
both; in a scene of well-formed shapes it always has.

Under the same lights in another order a ray sees the same, and the picture is the same. -/
theorem trace_superposes [Single Exact]
    (finite : ∀ renderable ∈ scene.renderables, renderable.material.IsFinite)
    (ray : Ray Exact) (depth greatestDepth : Nat) (first second : List (Light Exact)) :
    let traced (lights : List (Light Exact)) := trace { scene with lights } ray depth greatestDepth
    let rendered (lights : List (Light Exact)) (image : Image) :=
      render { scene with lights } image greatestDepth
    (∀ one other, (traced first).outcome = .ok one → (traced second).outcome = .ok other →
      (∃ both dark, (traced (first ++ second)).outcome = .ok both ∧
        (traced []).outcome = .ok dark ∧ both.color + dark.color = one.color + other.color) ∧
      one.found = other.found ∧
      (traced first).tally.intersections = (traced second).tally.intersections) ∧
    (∀ both, (traced (first ++ second)).outcome = .ok both →
      ∃ one other, (traced first).outcome = .ok one ∧ (traced second).outcome = .ok other) ∧
    (WellFormed scene.renderables → ∃ one, (traced first).outcome = .ok one) ∧
    (first.Perm second →
      (∀ one, (traced first).outcome = .ok one → traced second = traced first) ∧
      ∀ image report, (rendered first image).outcome = .finished report →
        (rendered second image).outcome = .finished report ∧
        (rendered second image).image = (rendered first image).image) := by
  intro traced rendered
  have mirrors : ∀ hit ∈ (scene.chain (greatestDepth - depth) ray).hits,
      (scene.materialOf hit).IsFinite := by
    intro hit member
    obtain ⟨renderable, isRenderable, material⟩ := exists_mem_of_mem_hits member
    exact material ▸ finite renderable isRenderable
  refine ⟨?_, ?_, ?_, ?_⟩
  · intro one other isOne isOther
    obtain ⟨oneClears, rfl⟩ := outcome_trace_litBy_iff.mp isOne
    obtain ⟨otherClears, rfl⟩ := outcome_trace_litBy_iff.mp isOther
    have bothClear := clears_append_iff.mpr ⟨oneClears, otherClears⟩
    refine ⟨⟨_, _, outcome_trace_litBy_iff.mpr ⟨bothClear, rfl⟩,
      outcome_trace_litBy_iff.mpr ⟨oneClears.litBy_nil, rfl⟩, ?_⟩, ?_, ?_⟩
    · exact color_sightAlong_append mirrors first second
    · exact found_sightAlong first second _
    · exact (intersections_trace oneClears).trans (intersections_trace otherClears).symm
  · intro both isBoth
    obtain ⟨bothClear, -⟩ := outcome_trace_litBy_iff.mp isBoth
    obtain ⟨oneClears, otherClears⟩ := clears_append_iff.mp bothClear
    exact ⟨_, _, outcome_trace_litBy_iff.mpr ⟨oneClears, rfl⟩,
      outcome_trace_litBy_iff.mpr ⟨otherClears, rfl⟩⟩
  · intro wellFormed
    have stillFormed : WellFormed (scene.litBy first).renderables := wellFormed
    exact succeeds_trace stillFormed ray depth greatestDepth
  · intro perm
    exact ⟨fun one isOne => trace_of_perm perm ⟨one, isOne⟩,
      fun image report finished => render_of_perm perm finished⟩

/-- Two lights above a mirror on the ground. -/
theorem trace_superposes_ground :
    let origin : Vec3 Exact := .ofReal ⟨0, 0, 0⟩
    let ground : Shape Exact := .plane ⟨origin, .ofReal ⟨0, 0, 1⟩⟩
    let mirror : Material Exact := .phong ⟨origin, .ofReal ⟨1, 1, 1⟩, origin, real 0.5, real 1⟩
    let scene : Scene Exact := { empty.addAll [⟨ground, mirror⟩] with background := .splat 1 }
    let high : Light Exact := ⟨⟨.splat 1, .splat 1, .splat 1⟩, .ofReal ⟨0, 0, 9⟩⟩
    let low : Light Exact := ⟨⟨.splat 1, .splat 1, .splat 1⟩, .ofReal ⟨3, 0, 1⟩⟩
    let ray : Ray Exact := .ofReal ⟨⟨0, 0, 1⟩, ⟨0, 0, -1⟩⟩
    let traced (lights : List (Light Exact)) := trace { scene with lights } ray 0 3
    (∀ renderable ∈ scene.renderables, renderable.material.IsFinite) ∧
      ∃ both dark one other, (traced [high, low]).outcome = .ok both ∧
        (traced []).outcome = .ok dark ∧ (traced [high]).outcome = .ok one ∧
        (traced [low]).outcome = .ok other ∧ both.color + dark.color = one.color + other.color := by
  intro origin ground mirror scene high low ray traced
  have finite : ∀ renderable ∈ scene.renderables, renderable.material.IsFinite := by
    intro renderable member
    obtain rfl := List.mem_singleton.mp member
    exact ⟨Vec3.isFinite_ofReal _, Vec3.isFinite_ofReal _, 0.5, rfl⟩
  have wellFormed : WellFormed scene.renderables := by
    intro renderable member
    obtain rfl := List.mem_singleton.mp member
    trivial
  let rounding : Single Exact := ⟨fun _ => 0, fun _ => .undefined⟩
  obtain ⟨superposes, -, succeeds, -⟩ := trace_superposes finite ray 0 3 [high] [low]
  obtain ⟨-, -, succeedsToo, -⟩ := trace_superposes finite ray 0 3 [low] [high]
  obtain ⟨one, isOne⟩ := succeeds wellFormed
  obtain ⟨other, isOther⟩ := succeedsToo wellFormed
  obtain ⟨⟨both, dark, isBoth, isDark, same⟩, -⟩ := superposes one other isOne isOther
  exact ⟨finite, both, dark, one, other, isBoth, isDark, isOne, isOther, same⟩

end Scene

end RayTracer
