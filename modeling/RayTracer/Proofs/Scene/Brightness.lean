import RayTracer.Proofs.Material
import RayTracer.Proofs.Scene.Radiance

/-!
# How bright a ray is seen

In a scene of finite shapes with constructed materials that is lit by light, a ray sees
light: no channel is ever negative. Mirrors do not amplify it. What a mirror sends back is
in every channel at most as bright as its own light or as what it receives, so what is seen
along a chain is at most as bright as one of the hits is under the lights, or as the
background at the end (`Scene.trace_bounded`).
-/

set_option autoImplicit false

namespace RayTracer

open Exact

theorem Intersection.IsFinite.mirrored {hit : Intersection Exact} (finite : hit.IsFinite) :
    hit.mirrored.IsFinite := by
  have safe : hit.safePoint.IsFinite := finite.position.add (finite.normal.smul 1e-9)
  obtain ⟨factor, isFactor⟩ := finite.ray.2.dot finite.normal
  refine ⟨safe, Vec3.IsFinite.unit ?_⟩
  rw [Vec3.reflect, isFactor, two_eq_real, real_mul_real]
  exact finite.ray.2.sub (finite.normal.smul _)

theorem isLight_sumOf {colors : List (Color Exact)} (light : ∀ color ∈ colors, color.IsLight) :
    (sumOf colors).IsLight := by
  induction colors with
  | nil => exact Vec3.isLight_zero
  | cons color rest ih =>
    obtain ⟨here, later⟩ := List.forall_mem_cons.mp light
    exact here.add (ih later)

/-- A channel of mixed light is light, and at most as bright as one of the parts. -/
theorem mix_bounded {material : Material Exact} (constructed : material.Constructed)
    (mirrors : 0 < material.reflectance) {own incident : Color Exact} (ownLight : own.IsLight)
    (incidentLight : incident.IsLight) (axis : Axis) :
    ((Scene.mix material own incident).get axis).IsAmount ∧
      ((Scene.mix material own incident).get axis ≤ own.get axis ∨
        (Scene.mix material own incident).get axis ≤ incident.get axis) := by
  obtain ⟨fraction, isFraction, fractionNonneg, fractionLe⟩ := constructed.exists_reflectance
  obtain ⟨factor, isFactor, factorNonneg, factorLe⟩ := constructed.exists_absorption mirrors axis
  obtain ⟨light, isLight, lightNonneg⟩ := ownLight axis
  obtain ⟨received, isReceived, receivedNonneg⟩ := incidentLight axis
  have isMixed : (Scene.mix material own incident).get axis =
      real ((1 - fraction) * light + fraction * (received * factor)) := by
    simp only [Scene.mix, Vec3.get_add, Vec3.get_smul, Vec3.get_mul, isFraction, isFactor, isLight,
      isReceived, one_eq_real, real_sub_real, real_mul_real, real_add_real]
  have rest : 0 ≤ 1 - fraction := sub_nonneg.mpr fractionLe
  have filtered : received * factor ≤ received := mul_le_of_le_one_right receivedNonneg factorLe
  have mirrored : fraction * (received * factor) ≤ fraction * received :=
    mul_le_mul_of_nonneg_left filtered fractionNonneg
  rw [isMixed, isLight, isReceived, real_le_real, real_le_real]
  refine ⟨isAmount_real (by positivity), ?_⟩
  obtain brighter | darker := le_total received light
  · left
    have replaced := mul_le_mul_of_nonneg_left brighter fractionNonneg
    linarith
  · right
    have replaced := mul_le_mul_of_nonneg_left darker rest
    linarith

namespace Scene

/-- The shapes of a scene are finite, its materials constructed, and all its light is
light. The background is divided by the light intensity where it is mirrored. -/
structure IsNatural (scene : Scene Exact) : Prop where
  shapes : ∀ renderable ∈ scene.renderables, renderable.shape.IsFinite
  materials : ∀ renderable ∈ scene.renderables, renderable.material.Constructed
  lights : ∀ light ∈ scene.lights, light.Shines
  background : scene.background.IsLight
  intensity : epsilon < scene.lightIntensity

/-- A hit of a chain or the background at its end is as bright in a channel. -/
def Covers (scene : Scene Exact) (chain : Chain Exact) (axis : Axis) (amount : Exact) : Prop :=
  (∃ hit ∈ chain.hits, amount ≤ (scene.localLight hit).get axis) ∨
    chain.ending = .miss ∧ amount ≤ (scene.background / scene.lightIntensity).get axis

section Natural

variable {scene : Scene Exact} (natural : scene.IsNatural)
include natural

namespace IsNatural

/-! ## The light of an intersection -/

theorem finite_of_closest {ray : Ray Exact} (finite : ray.IsFinite) {bound : Exact}
    {hit : Intersection Exact} (searched : scene.closest ray bound = .ok (some hit)) :
    hit.IsFinite := by
  refine forall_nearestFrom ?_ (by simp) searched hit rfl
  intro renderable member number remaining surface found
  have surfaceFinite := Shape.finite_of_closest (natural.shapes renderable member) finite found
  exact Intersection.finite_ofHit finite number surfaceFinite

theorem constructed_of_closest {ray : Ray Exact} {bound : Exact} {hit : Intersection Exact}
    (searched : scene.closest ray bound = .ok (some hit)) : (scene.materialOf hit).Constructed := by
  obtain ⟨renderable, present, material⟩ := exists_material searched
  rw [material]
  exact natural.materials renderable (List.mem_of_getElem? present)

theorem isLight_localLight {hit : Intersection Exact} (finite : hit.IsFinite)
    (constructed : (scene.materialOf hit).Constructed) : (scene.localLight hit).IsLight := by
  refine isLight_sumOf (List.forall_mem_map.mpr fun light member => ?_)
  have shines := natural.lights light member
  have ambient := constructed.isLight_ambient finite shines
  rw [contribution]
  split
  · exact ambient.add (constructed.isLight_direct finite shines)
  · exact ambient

theorem incident_background :
    scene.incident ⟨scene.background, false⟩ = scene.background / scene.lightIntensity := by
  rw [incident, if_pos ⟨rfl, natural.intensity⟩]

theorem isLight_incident_background :
    (scene.background / scene.lightIntensity).IsLight :=
  natural.background.div (Exact.lt_trans zero_lt_epsilon natural.intensity)

/-! ## The light along a chain -/

/-- **What comes back along a chain is light, no brighter than what it comes from.** -/
theorem radiance_chain {levels : Nat} {ray : Ray Exact} (finite : ray.IsFinite)
    (noFault : (scene.chain levels ray).ending ≠ .fault) :
    (scene.radiance (scene.chain levels ray)).IsLight ∧ ∀ axis,
      scene.Covers (scene.chain levels ray) axis
        ((scene.radiance (scene.chain levels ray)).get axis) := by
  have last {ray : Ray Exact} (finite : ray.IsFinite) {hit : Intersection Exact}
      (searched : scene.closest ray Scalar.infinity = .ok (some hit)) (cutOff : Bool) :
      (scene.localLight hit).IsLight ∧
        ∀ axis, scene.Covers (.last hit cutOff) axis ((scene.localLight hit).get axis) := by
    have own := natural.isLight_localLight (natural.finite_of_closest finite searched)
      (natural.constructed_of_closest searched)
    exact ⟨own, fun axis => .inl ⟨hit, List.mem_singleton_self hit, (own axis).le_self⟩⟩
  fun_induction scene.chain levels ray with
  | case1 levels ray fault searched => exact absurd rfl noFault
  | case2 levels ray searched =>
    rw [radiance, natural.incident_background]
    have light := natural.isLight_incident_background
    exact ⟨light, fun axis => .inr ⟨rfl, (light axis).le_self⟩⟩
  | case3 ray hit searched mirrors => exact last finite searched true
  | case4 ray hit searched mirrors levels ih =>
    have hitFinite := natural.finite_of_closest finite searched
    have constructed := natural.constructed_of_closest searched
    have own := natural.isLight_localLight hitFinite constructed
    obtain ⟨incident, covered⟩ := ih hitFinite.mirrored noFault
    have mixed := mix_bounded constructed mirrors own incident
    refine ⟨fun axis => (mixed axis).1, fun axis => ?_⟩
    obtain ownBrighter | incidentBrighter := (mixed axis).2
    · exact .inl ⟨hit, List.mem_cons_self, ownBrighter⟩
    · obtain ⟨other, member, brighter⟩ | ⟨missed, brighter⟩ := covered axis
      · exact .inl ⟨other, List.mem_cons_of_mem _ member, Exact.le_trans incidentBrighter brighter⟩
      · exact .inr ⟨missed, Exact.le_trans incidentBrighter brighter⟩
  | case5 levels ray hit searched matte => exact last finite searched false

end IsNatural

/-- **Radiance is never negative, and mirrors do not amplify it.** In a natural scene, every
channel that a ray sees is at least zero. A ray that meets nothing sees the background. A
channel of another ray is at most as bright as that of one of the hits along its chain, as it
is without mirrors, or as the background that is mirrored at the end of the chain. -/
theorem trace_bounded {ray : Ray Exact} (finite : ray.IsFinite) (depth greatestDepth : Nat) :
    let chain := scene.chain (greatestDepth - depth) ray
    let traced := (scene.trace ray depth greatestDepth).outcome
    (WellFormed scene.renderables → ∃ sighting, traced = .ok sighting) ∧
    ∀ sighting, traced = .ok sighting →
      (∀ axis, 0 ≤ sighting.color.get axis) ∧
      (scene.closest ray Scalar.infinity = .ok none → sighting = ⟨scene.background, false⟩) ∧
      ∀ first, scene.closest ray Scalar.infinity = .ok (some first) → ∀ axis,
        (∃ hit ∈ chain.hits, ∃ color,
          (scene.localColor (scene.materialOf hit) hit).outcome = .ok color ∧
            sighting.color.get axis ≤ color.get axis) ∨
          chain.ending = .miss ∧
            sighting.color.get axis ≤ (scene.background / scene.lightIntensity).get axis := by
  intro chain traced
  refine ⟨fun wellFormed => succeeds_trace wellFormed ray depth greatestDepth, ?_⟩
  intro sighting isSighting
  obtain ⟨clears, rfl⟩ := outcome_trace_eq_ok_iff.mp isSighting
  obtain ⟨isLight, covered⟩ := natural.radiance_chain finite clears.1
  refine ⟨fun axis => ?_, fun missed => ?_, fun first searched axis => ?_⟩
  · rw [sightAlong]
    split
    · exact (natural.background axis).nonneg
    · exact (isLight axis).nonneg
  · have noHits : (scene.chain (greatestDepth - depth) ray).hits.isEmpty := by
      rw [Scene.chain]
      simp only [missed]
      rfl
    rw [sightAlong, if_pos noHits]
  · have viewed : scene.sightAlong chain = ⟨scene.radiance chain, true⟩ :=
      if_neg fun empty => hits_chain_ne_nil searched _ (List.isEmpty_iff.mp empty)
    obtain ⟨hit, member, brighter⟩ | darker := covered axis
    · have own := outcome_localColor_eq_ok_iff.mpr ⟨clears.2 hit member, rfl⟩
      exact .inl ⟨hit, member, _, own, viewed ▸ brighter⟩
    · exact .inr (viewed ▸ darker)

end Natural

/-- A mirror on the ground under a lamp. -/
theorem trace_bounded_ground :
    let ground : Shape Exact := .plane (.through (.ofReal ⟨0, 0, 0⟩) (.ofReal ⟨0, 0, 1⟩))
    let mirror : Material Exact := .phong (.of (.ofReal ⟨0, 0, 0⟩) (.ofReal ⟨1, 2, 3⟩)
      (.ofReal ⟨1, -1, 1⟩) (real 0.5) (real 7))
    let lamp : Light Exact := ⟨⟨.splat 1, .splat 1, .splat 1⟩, .ofReal ⟨3, 0, 1⟩⟩
    let scene : Scene Exact :=
      { (empty.addAll [⟨ground, mirror⟩]).addLight lamp with background := .splat 1 }
    let ray : Ray Exact := .ofReal ⟨⟨0, 0, 1⟩, ⟨0, 0, -1⟩⟩
    scene.IsNatural ∧ ray.IsFinite ∧ ∃ sighting, (scene.trace ray 0 3).outcome = .ok sighting ∧
      ∀ axis, 0 ≤ sighting.color.get axis := by
  intro ground mirror lamp scene ray
  have white : Vec3.IsLight (.splat 1) := by
    intro axis
    rw [Vec3.get_splat, one_eq_real]
    exact isAmount_real zero_le_one
  have natural : scene.IsNatural := by
    refine ⟨?_, ?_, ?_, white, real_lt_real.mpr (by norm_num)⟩
    · intro renderable member
      obtain rfl := List.mem_singleton.mp member
      exact ⟨Vec3.isFinite_ofReal _, (Vec3.isFinite_ofReal _).unit⟩
    · intro renderable member
      obtain rfl := List.mem_singleton.mp member
      exact .phong _ _ _ _ _
    · intro light member
      obtain rfl := List.mem_singleton.mp member
      exact ⟨Vec3.isFinite_ofReal _, white, white, white⟩
  have wellFormed : WellFormed scene.renderables := by
    intro renderable member
    obtain rfl := List.mem_singleton.mp member
    trivial
  have finite : ray.IsFinite := Ray.isFinite_ofReal _
  obtain ⟨succeeds, bounded⟩ := trace_bounded natural finite 0 3
  obtain ⟨sighting, isSighting⟩ := succeeds wellFormed
  exact ⟨natural, finite, sighting, isSighting, (bounded sighting isSighting).1⟩

end Scene

end RayTracer
