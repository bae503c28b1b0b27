import RayTracer.Proofs.Exact.Directions
import RayTracer.Proofs.Scene.Chain
import RayTracer.Scene.Render

/-!
# The light intensity and the background

The colour of a pixel that shows a renderable is multiplied by the light intensity.
What it shows of the background was divided by the intensity before, at the end of the
chain of mirrored rays, and it is tinted by every mirror on the way. In exact arithmetic
the division and the multiplication cancel through all of these mixtures: the pixel is
the sum of a multiple of what is seen in front of a black background, and of the
background as tinted by the mirrors (`Scene.pixelColor_eq_add`).
-/

set_option autoImplicit false

namespace RayTracer

open Exact

/-! ## Tints -/

namespace Material

/-- The fraction of mirrored light that is left, channel by channel. -/
def tint {S : Type} [Scalar S] (material : Material S) : Color S :=
  material.reflectance • material.absorption

/-- What a material mirrors is decided by numbers. -/
def IsFinite : Material Exact → Prop
  | .constant surface => surface.color.IsFinite
  | .phong surface =>
    surface.ambient.IsFinite ∧ surface.diffuse.IsFinite ∧
      ∃ fraction, surface.reflectance = .real fraction
  | .cookTorrance surface =>
    surface.ambient.IsFinite ∧ surface.albedo.IsFinite ∧
      ∃ fraction, surface.reflectance = .real fraction

theorem isFinite_atMostOne {color : Color Exact} (finite : color.IsFinite) :
    (atMostOne color).IsFinite := by
  obtain ⟨⟨x, y, z⟩, rfl⟩ := finite
  rw [atMostOne, Vec3.greatest_ofReal]
  split
  · rename_i exceeds
    rw [one_eq_real, real_lt_real] at exceeds
    refine Vec3.isFinite_of_get fun axis => ⟨(Vec3.mk x y z).get axis / max x (max y z), ?_⟩
    rw [Vec3.get_div, Vec3.get_ofReal, real_div_real (one_pos.trans exceeds).ne']
  · exact Vec3.isFinite_ofReal _

theorem IsFinite.absorption {material : Material Exact} (finite : material.IsFinite) :
    material.absorption.IsFinite := by
  cases material with
  | constant surface => exact finite
  | phong surface =>
    obtain ⟨ambient, diffuse, -⟩ := finite
    exact isFinite_atMostOne (diffuse.add ambient)
  | cookTorrance surface =>
    obtain ⟨ambient, albedo, -⟩ := finite
    exact isFinite_atMostOne (albedo.add ambient)

theorem IsFinite.reflectance {material : Material Exact} (finite : material.IsFinite) :
    ∃ fraction, material.reflectance = .real fraction := by
  cases material with
  | constant surface => exact ⟨0, zero_eq_real⟩
  | phong surface => exact finite.2.2
  | cookTorrance surface => exact finite.2.2

theorem IsFinite.tint {material : Material Exact} (finite : material.IsFinite) :
    material.tint.IsFinite := by
  obtain ⟨fraction, isFraction⟩ := finite.reflectance
  rw [Material.tint, isFraction]
  exact finite.absorption.smul fraction

end Material

namespace Scene

/-- Light that is added to the light a mirror receives is added to the light it sends
back, tinted. -/
theorem mix_add {material : Material Exact} (finite : material.IsFinite)
    (color incident more : Color Exact) :
    mix material color (incident + more) = mix material color incident + more * material.tint := by
  obtain ⟨fraction, isFraction⟩ := finite.reflectance
  refine Vec3.ext_get fun axis => ?_
  obtain ⟨factor, isFactor⟩ := finite.absorption.get axis
  simp only [mix, Material.tint, Vec3.get_add, Vec3.get_smul, Vec3.get_mul, isFraction, isFactor,
    add_mul_real, real_mul_add, Exact.add_assoc, real_mul_real]
  rw [Exact.mul_comm (real fraction) (more.get axis * real factor), mul_real_mul_real,
    mul_comm factor]

variable {S : Type} [Scalar S]

/-- The product of the tints at some hits. -/
def tint (scene : Scene S) (hits : List (Intersection S)) : Color S :=
  (hits.map fun hit => (scene.materialOf hit).tint).foldr (· * ·) (.splat 1)

/-- What is left of the background at the end of a chain. -/
def mirroredBackground (scene : Scene S) (chain : Chain S) : Color S :=
  if chain.ending = .miss then scene.background * scene.tint chain.hits else 0

/-- The scene with another background and another intensity. -/
def relit (scene : Scene S) (background : Color S) (intensity : S) : Scene S :=
  { scene with background, lightIntensity := intensity }

section Relit

variable (scene : Scene S) (background : Color S) (intensity : S)

theorem materialOf_relit : (scene.relit background intensity).materialOf = scene.materialOf := rfl

theorem localColor_relit : (scene.relit background intensity).localColor = scene.localColor := rfl

theorem chain_relit (levels : Nat) (ray : Ray S) :
    (scene.relit background intensity).chain levels ray = scene.chain levels ray := by
  have same : (scene.relit background intensity).renderables = scene.renderables := rfl
  exact chain_congr same levels ray

end Relit

/-! ## The light that arrives along a chain -/

/-- The light that a mirror receives along a chain. -/
def received (scene : Scene S) (chain : Chain S) : Except OutOfRange (Color S) :=
  (scene.see chain).outcome.map scene.incident

theorem received_last (scene : Scene S) (hit : Intersection S) (cutOff : Bool) :
    scene.received (.last hit cutOff) = (scene.localColor (scene.materialOf hit) hit).outcome := by
  rw [received, see, met_eq]
  cases (scene.localColor (scene.materialOf hit) hit).outcome <;> rfl

theorem received_mirror (scene : Scene S) (hit : Intersection S) (next : Chain S) :
    scene.received (.mirror hit next) =
      (scene.localColor (scene.materialOf hit) hit).outcome.bind fun color =>
        (scene.received next).map (mix (scene.materialOf hit) color) := by
  rw [received, see, met_eq]
  cases isOutcome : (scene.localColor (scene.materialOf hit) hit).outcome with
  | error fault =>
    rw [Counted.bind_of_error isOutcome]
    rfl
  | ok color =>
    rw [Counted.bind_of_ok isOutcome, Counted.bind_pure_comp, received]
    cases (scene.see next).outcome <;> rfl

/-- A ray that hits something sees what a mirror would receive. -/
theorem outcome_see_of_hits (scene : Scene S) {chain : Chain S} (hits : chain.hits ≠ []) :
    (scene.see chain).outcome = (scene.received chain).map (⟨·, true⟩) := by
  have seen (light : Counted (Color S)) :
      (met light).outcome = ((met light).outcome.map scene.incident).map (⟨·, true⟩) := by
    rw [met_eq]
    cases light.outcome <;> rfl
  cases chain with
  | fault fault => exact absurd rfl hits
  | miss => exact absurd rfl hits
  | last hit cutOff => exact seen _
  | mirror hit next => exact seen _

/-! ## What the intensity does -/

theorem finite_tint {scene : Scene Exact} {hits : List (Intersection Exact)}
    (finite : ∀ hit ∈ hits, (scene.materialOf hit).IsFinite) : (scene.tint hits).IsFinite := by
  induction hits with
  | nil => exact ⟨.splat 1, congrArg Vec3.splat one_eq_real⟩
  | cons hit rest ih =>
    obtain ⟨here, later⟩ := List.forall_mem_cons.mp finite
    exact here.tint.mul (ih later)

/-- A mirror tints what is left of the background, however it is scaled. -/
theorem smul_mirroredBackground_mul_tint {scene : Scene Exact} {hit : Intersection Exact}
    {next : Chain Exact} (finite : ∀ other ∈ hit :: next.hits, (scene.materialOf other).IsFinite)
    (factor : ℝ) :
    real factor • scene.mirroredBackground next * (scene.materialOf hit).tint =
      real factor • scene.mirroredBackground (.mirror hit next) := by
  obtain ⟨here, later⟩ := List.forall_mem_cons.mp finite
  refine Vec3.ext_get fun axis => ?_
  obtain ⟨first, isFirst⟩ := here.tint.get axis
  obtain ⟨second, isSecond⟩ := (finite_tint later).get axis
  rw [mirroredBackground, mirroredBackground, Chain.ending]
  by_cases missed : next.ending = .miss
  · have product : (scene.tint (hit :: next.hits)).get axis = real (first * second) := by
      rw [← real_mul_real, ← isFirst, ← isSecond, ← Vec3.get_mul]
      rfl
    simp only [missed, if_true, Chain.hits, Vec3.get_mul, Vec3.get_smul, isFirst, isSecond, product]
    simp only [Exact.mul_comm (real factor), mul_real_mul_real]
    rw [mul_comm first, mul_right_comm]
  · simp [missed, isFirst]

theorem incident_black_miss (scene : Scene Exact) (intensity : Exact) :
    (scene.relit 0 intensity).incident ⟨0, false⟩ = 0 := by
  rw [incident]
  split
  · rename_i divides
    exact Vec3.zero_div_of_pos (Exact.lt_trans zero_lt_epsilon divides.2)
  · rfl

/-- Without a background the intensity makes no difference to the light that arrives. -/
theorem received_black (scene : Scene Exact) (chain : Chain Exact) (intensity other : Exact) :
    (scene.relit 0 intensity).received chain = (scene.relit 0 other).received chain := by
  induction chain with
  | fault fault => rfl
  | miss =>
    refine congrArg Except.ok ?_
    exact (incident_black_miss scene intensity).trans (incident_black_miss scene other).symm
  | last hit cutOff =>
    rw [received_last, received_last]
    rfl
  | mirror hit next ih =>
    rw [received_mirror, received_mirror, ih]
    rfl

/-- **The intensity divides the background that is left, and nothing else.** -/
theorem received_relit {scene : Scene Exact} {chain : Chain Exact}
    (finite : ∀ hit ∈ chain.hits, (scene.materialOf hit).IsFinite) {intensity : ℝ}
    (bright : (epsilon : Exact) < real intensity) (other : Exact) :
    (scene.relit scene.background (real intensity)).received chain =
      ((scene.relit 0 other).received chain).map
        (· + real intensity⁻¹ • scene.mirroredBackground chain) := by
  have positive : 0 < intensity := real_lt_real.mp (Exact.lt_trans zero_lt_epsilon bright)
  induction chain with
  | fault fault => rfl
  | miss =>
    have divided : (scene.relit scene.background (real intensity)).incident
        ⟨scene.background, false⟩ = scene.background / real intensity :=
      if_pos ⟨rfl, bright⟩
    have whole : scene.mirroredBackground .miss = scene.background :=
      Vec3.mul_splat_one scene.background
    refine congrArg Except.ok (divided.trans ?_)
    refine Eq.trans ?_ (congrArg (· + _) (incident_black_miss scene other)).symm
    rw [whole, Vec3.zero_add, Vec3.div_real_of_pos _ positive]
  | last hit cutOff =>
    have nothing : scene.mirroredBackground (.last hit cutOff) = 0 := by
      cases cutOff <;> rfl
    simp only [received_last, materialOf_relit, localColor_relit, nothing, Vec3.smul_zero]
    cases (scene.localColor (scene.materialOf hit) hit).outcome with
    | error fault => rfl
    | ok color => exact congrArg Except.ok (Vec3.add_zero color).symm
  | mirror hit next ih =>
    obtain ⟨here, later⟩ := List.forall_mem_cons.mp finite
    simp only [received_mirror, ih later, materialOf_relit, localColor_relit,
      ← smul_mirroredBackground_mul_tint finite]
    cases (scene.localColor (scene.materialOf hit) hit).outcome with
    | error fault => rfl
    | ok color =>
      cases (scene.relit 0 other).received next with
      | error fault => rfl
      | ok incident => exact congrArg Except.ok (mix_add here color incident _)

theorem hits_chain_ne_nil {scene : Scene S} {ray : Ray S} {hit : Intersection S}
    (searched : scene.closest ray Scalar.infinity = .ok (some hit)) (levels : Nat) :
    (scene.chain levels ray).hits ≠ [] := by
  rw [chain, searched]
  dsimp only
  split
  · split <;> simp [Chain.hits]
  · simp [Chain.hits]

theorem outcome_pixelColor_of_hits {scene : Scene S} {camera : Camera S}
    {column row greatestDepth : Nat}
    (hits : (scene.chain greatestDepth (camera.rayThrough column row)).hits ≠ []) :
    (scene.pixelColor camera column row greatestDepth).outcome =
      (scene.received (scene.chain greatestDepth (camera.rayThrough column row))).map
        (scene.lightIntensity • ·) := by
  rw [pixelColor, trace_eq_see, Counted.bind_pure_comp, Nat.sub_zero,
    outcome_see_of_hits scene hits]
  cases scene.received (scene.chain greatestDepth (camera.rayThrough column row)) <;> rfl

/-- **The background in a mirror is not scaled by the light intensity.** Let a pixel show
something, and let all materials mirror by finite fractions. There is one colour that the
ray sees in front of a black background, whatever the intensity. With an intensity above
`epsilon` the colour of the pixel is that one times the intensity, plus what the mirrors
leave of the background. If a query faults, it does so in all these cases; in a scene of
well-formed shapes none does. -/
theorem pixelColor_eq_add {scene : Scene Exact} {camera : Camera Exact} {column row : Nat}
    {hit : Intersection Exact}
    (finite : ∀ renderable ∈ scene.renderables, renderable.material.IsFinite)
    (searched : scene.closest (camera.rayThrough column row) .infinity = .ok (some hit))
    (greatestDepth : Nat) :
    let ray := camera.rayThrough column row
    let background := scene.mirroredBackground (scene.chain greatestDepth ray)
    ∃ dark : Except OutOfRange (Color Exact),
      (∀ intensity : Exact,
        (trace { scene with background := 0, lightIntensity := intensity } ray 0
          greatestDepth).outcome = dark.map (⟨·, true⟩)) ∧
      (∀ intensity : ℝ, (epsilon : Exact) < real intensity →
        (pixelColor { scene with lightIntensity := real intensity } camera column row
          greatestDepth).outcome = dark.map fun color => real intensity • color + background) ∧
      (WellFormed scene.renderables → ∃ color, dark = .ok color) := by
  intro ray background
  have mirrors : ∀ hit ∈ (scene.chain greatestDepth ray).hits, (scene.materialOf hit).IsFinite := by
    intro hit member
    obtain ⟨renderable, isRenderable, material⟩ := exists_mem_of_mem_hits member
    exact material ▸ finite renderable isRenderable
  have hits := hits_chain_ne_nil searched greatestDepth
  have seen (intensity : Exact) : (trace (scene.relit 0 intensity) ray 0 greatestDepth).outcome =
      ((scene.relit 0 1).received (scene.chain greatestDepth ray)).map (⟨·, true⟩) := by
    rw [trace_eq_see, Nat.sub_zero, chain_relit, outcome_see_of_hits _ hits,
      received_black scene _ intensity 1]
  refine ⟨(scene.relit 0 1).received (scene.chain greatestDepth ray), seen, ?_, ?_⟩
  · intro intensity bright
    have positive : 0 < intensity := real_lt_real.mp (Exact.lt_trans zero_lt_epsilon bright)
    change (pixelColor (scene.relit scene.background (real intensity)) camera column row
      greatestDepth).outcome = _
    rw [outcome_pixelColor_of_hits (by rwa [chain_relit]), chain_relit,
      received_relit mirrors bright 1]
    cases (scene.relit 0 1).received (scene.chain greatestDepth ray) with
    | error fault => rfl
    | ok color => exact congrArg Except.ok (Vec3.smul_add_smul_inv positive.ne' color background)
  · intro wellFormed
    have stillFormed : WellFormed (scene.relit 0 1).renderables := wellFormed
    obtain ⟨sighting, isSighting⟩ := succeeds_trace stillFormed ray 0 greatestDepth
    rw [seen] at isSighting
    cases isReceived : (scene.relit 0 1).received (scene.chain greatestDepth ray) with
    | error fault =>
      rw [isReceived] at isSighting
      cases isSighting
    | ok color => exact ⟨color, rfl⟩

/-- A mirror on the ground, seen from above. -/
theorem pixelColor_eq_add_ground :
    let origin : Vec3 Exact := .ofReal ⟨0, 0, 0⟩
    let ground : Plane Exact := ⟨origin, .ofReal ⟨0, 0, 1⟩⟩
    let mirror : Material Exact := .phong ⟨origin, .ofReal ⟨1, 1, 1⟩, origin, real 1, real 1⟩
    let scene : Scene Exact := { empty.addAll [⟨.plane ground, mirror⟩] with background := .splat 1 }
    let camera : Camera Exact := ⟨.ofReal ⟨0, 0, 1⟩, origin, origin, origin, origin⟩
    let ray := camera.rayThrough 0 0
    ∃ dark, (trace { scene with background := 0 } ray 0 3).outcome = .ok ⟨dark, true⟩ ∧
      ∀ intensity : ℝ, (epsilon : Exact) < real intensity →
        (pixelColor { scene with lightIntensity := real intensity } camera 0 0 3).outcome =
          .ok (real intensity • dark + scene.mirroredBackground (scene.chain 3 ray)) := by
  intro origin ground mirror scene camera ray
  have downwards : ray = .ofReal ⟨⟨0, 0, 1⟩, ⟨0, 0, -1⟩⟩ := by
    have target : camera.firstPixel + (Scalar.ofNat 0 : Exact) • camera.right +
        (Scalar.ofNat 0 : Exact) • camera.up = origin := by
      refine Vec3.ext_get fun axis => ?_
      simp [camera, origin]
    have aim : origin - camera.position = .ofReal ⟨0, 0, -1⟩ := by
      simp [origin, camera, Vec3.minus, Vec3.zipWith]
    change Ray.along camera.position (_ - camera.position) = _
    rw [target, aim, Ray.along, Vec3.unit_ofReal (by norm_num [Vec3.inner])]
    rfl
  have crossing : ground.crossing ray = some (real 1) := by
    have descent : ray.direction.dot ground.normal = real (-1) := by
      rw [downwards]
      exact congrArg real (by norm_num [Vec3.inner])
    have height : (ground.point - ray.origin).dot ground.normal = real (-1) := by
      rw [downwards]
      simp [Ray.ofReal, ground, origin, Vec3.minus, Vec3.inner, Vec3.zipWith]
    have steep : ¬Scalar.abs (real (-1)) < (epsilon : Exact) := by
      rw [abs_real, epsilon_eq_real, real_lt_real]
      norm_num
    rw [Plane.crossing, descent, height]
    exact (if_neg steep).trans (congrArg some (by simp))
  have inRange : InRange (real 1) infinity := ⟨by simp, trivial⟩
  have met : (ground.closest ray infinity) = some ⟨real 1, ground.normal, 0⟩ := by
    rw [Plane.closest, crossing]
    simp [inRange]
  obtain ⟨hit, searched⟩ : ∃ hit, scene.closest ray .infinity = .ok (some hit) := by
    refine ⟨.ofHit ray 0 ⟨real 1, ground.normal, 0⟩, ?_⟩
    have stepped : closer ray infinity none 0 ⟨.plane ground, mirror⟩ =
        .ok (some (.ofHit ray 0 ⟨real 1, ground.normal, 0⟩)) :=
      closer_of_some (congrArg Except.ok met) inRange.2
    exact nearestFrom_cons stepped []
  have finite : ∀ renderable ∈ scene.renderables, renderable.material.IsFinite := by
    intro renderable member
    obtain rfl := List.mem_singleton.mp member
    exact ⟨Vec3.isFinite_ofReal _, Vec3.isFinite_ofReal _, 1, rfl⟩
  obtain ⟨dark, black, bright, succeeds⟩ := pixelColor_eq_add finite searched 3
  obtain ⟨color, rfl⟩ := succeeds fun renderable member => by
    obtain rfl := List.mem_singleton.mp member
    trivial
  exact ⟨color, black scene.lightIntensity, bright⟩

end Scene

end RayTracer
