import RayTracer.Proofs.Scene.Events
import RayTracer.Proofs.Scene.Intensity

/-!
# The light along a chain as a formula

In exact arithmetic the light of an intersection is a sum with one summand for each
light of the scene (`Scene.outcome_localColor_eq_ok_iff`), and what comes back along a
chain of mirrored rays is worked out from these sums (`Scene.radiance`). Tracing a ray
has a result exactly when no query on the way faults, and then the result is what this
formula says (`Scene.outcome_trace_eq_ok_iff`).

Statements about colours are proved of the formula. It does not fault, so inductions on
chains need no cases for that.
-/

set_option autoImplicit false

namespace RayTracer

open Exact

section Formula

variable {S : Type} [Scalar S]

/-- The sum of some colours. -/
def sumOf (colors : List (Color S)) : Color S := colors.foldr (· + ·) 0

namespace Scene

/-- What a light adds to the light of an intersection: its ambient part, and its direct
part when it reaches the intersection. -/
def contribution (scene : Scene S) (material : Material S) (hit : Intersection S)
    (light : Light S) : Color S :=
  if scene.reaches (hit, light) then material.ambient hit light + material.direct hit light
  else material.ambient hit light

/-- The light that an intersection receives from the lights of a scene and sends back. -/
def localLight (scene : Scene S) (hit : Intersection S) : Color S :=
  sumOf (scene.lights.map (scene.contribution (scene.materialOf hit) hit))

/-- The light that comes back along a chain, as a mirror before it receives it. -/
def radiance (scene : Scene S) : Chain S → Color S
  | .fault _ => 0
  | .miss => scene.incident ⟨scene.background, false⟩
  | .last hit _ => scene.localLight hit
  | .mirror hit next => mix (scene.materialOf hit) (scene.localLight hit) (scene.radiance next)

/-- What is seen along a chain. -/
def sightAlong (scene : Scene S) (chain : Chain S) : Sighting S :=
  if chain.hits.isEmpty then ⟨scene.background, false⟩ else ⟨scene.radiance chain, true⟩

/-- No query along a chain faults. -/
def Clears (scene : Scene S) (chain : Chain S) : Prop :=
  chain.ending ≠ .fault ∧ ∀ hit ∈ chain.hits, scene.AnswersAll hit

end Scene

end Formula

/-! ## Sums -/

section Sums

theorem sumOf_append (first second : List (Color Exact)) :
    sumOf (first ++ second) = sumOf first + sumOf second := by
  induction first with
  | nil => exact (Vec3.zero_add _).symm
  | cons color rest ih =>
    change color + sumOf (rest ++ second) = color + sumOf rest + sumOf second
    rw [ih, Vec3.add_assoc]

theorem sumOf_perm {first second : List (Color Exact)} (perm : first.Perm second) :
    sumOf first = sumOf second := by
  refine perm.foldr_eq' ?_ 0
  intro color _ other _ total
  rw [← Vec3.add_assoc, Vec3.add_comm other color, Vec3.add_assoc]

end Sums

namespace Scene

variable {scene : Scene Exact}

/-! ## The light of an intersection -/

theorem addContribution_of_answers (material : Material Exact) {hit : Intersection Exact}
    {light : Light Exact} (answered : scene.answers (hit, light) = true) (color : Color Exact) :
    scene.addContribution material hit color light =
      ⟨.ok (color + scene.contribution material hit light),
        ⟨0, if scene.reaches (hit, light) then 1 else 0⟩⟩ := by
  cases searched : scene.obstructed (hit, light) with
  | error fault =>
    rw [answers, searched] at answered
    cases answered
  | ok hidden =>
    rw [addContribution, shadowed_eq_obstructed, contribution, reaches, searched]
    cases hidden with
    | true => rfl
    | false => exact Counted.ext (congrArg Except.ok (Vec3.add_assoc _ _ _)) rfl

theorem outcome_foldlM_addContribution (material : Material Exact) {hit : Intersection Exact}
    {lights : List (Light Exact)} (answered : ∀ light ∈ lights, scene.answers (hit, light) = true)
    (start : Color Exact) :
    (lights.foldlM (scene.addContribution material hit) start).outcome =
      .ok (start + sumOf (lights.map (scene.contribution material hit))) := by
  induction lights generalizing start with
  | nil => exact congrArg Except.ok (Vec3.add_zero start).symm
  | cons light rest ih =>
    obtain ⟨here, later⟩ := List.forall_mem_cons.mp answered
    have added := addContribution_of_answers material here start
    rw [List.foldlM_cons, Counted.bind_of_ok (congrArg Counted.outcome added), ih later,
      Vec3.add_assoc]
    rfl

/-- **The light of an intersection is the sum of what the lights add.** -/
theorem outcome_localColor_eq_ok_iff {hit : Intersection Exact} {color : Color Exact} :
    (scene.localColor (scene.materialOf hit) hit).outcome = .ok color ↔
      scene.AnswersAll hit ∧ color = scene.localLight hit := by
  have sum (answersAll : scene.AnswersAll hit) :
      (scene.localColor (scene.materialOf hit) hit).outcome = .ok (scene.localLight hit) := by
    refine (outcome_foldlM_addContribution _ answersAll 0).trans (congrArg Except.ok ?_)
    exact Vec3.zero_add _
  constructor
  · intro isColor
    have answersAll := (scene.localColor_counts (scene.materialOf hit) hit).2.mp ⟨color, isColor⟩
    exact ⟨answersAll, Except.ok.inj (isColor.symm.trans (sum answersAll))⟩
  · rintro ⟨answersAll, rfl⟩
    exact sum answersAll

/-! ## The light along a chain -/

theorem clears_mirror_iff {hit : Intersection Exact} {next : Chain Exact} :
    scene.Clears (.mirror hit next) ↔ scene.AnswersAll hit ∧ scene.Clears next := by
  rw [Clears, Clears, Chain.ending, Chain.hits, List.forall_mem_cons]
  exact and_left_comm

theorem received_eq_ok_iff {chain : Chain Exact} {color : Color Exact} :
    scene.received chain = .ok color ↔ scene.Clears chain ∧ color = scene.radiance chain := by
  induction chain generalizing color with
  | fault fault =>
    refine iff_of_false (fun isColor => ?_) fun clears => clears.1.1 rfl
    cases isColor
  | miss =>
    have clears : scene.Clears .miss := ⟨by simp [Chain.ending], by simp [Chain.hits]⟩
    rw [and_iff_right clears]
    exact ⟨fun isColor => (Except.ok.inj isColor).symm, fun isColor => congrArg _ isColor.symm⟩
  | last hit cutOff =>
    rw [received_last, outcome_localColor_eq_ok_iff]
    cases cutOff <;> simp [Clears, Chain.ending, Chain.hits, radiance]
  | mirror hit next ih =>
    rw [received_mirror, clears_mirror_iff]
    constructor
    · intro isColor
      obtain ⟨own, isOwn, isColor⟩ := exists_of_bind_eq_ok isColor
      obtain ⟨incident, isIncident, rfl⟩ := exists_of_map_eq_ok isColor
      obtain ⟨answersAll, rfl⟩ := outcome_localColor_eq_ok_iff.mp isOwn
      obtain ⟨clears, rfl⟩ := ih.mp isIncident
      exact ⟨⟨answersAll, clears⟩, rfl⟩
    · rintro ⟨⟨answersAll, clears⟩, rfl⟩
      rw [outcome_localColor_eq_ok_iff.mpr ⟨answersAll, rfl⟩, ih.mpr ⟨clears, rfl⟩]
      rfl

/-- **Tracing a ray works out the light along its chain**, unless a query faults. -/
theorem outcome_trace_eq_ok_iff {ray : Ray Exact} {depth greatestDepth : Nat}
    {sighting : Sighting Exact} :
    (scene.trace ray depth greatestDepth).outcome = .ok sighting ↔
      scene.Clears (scene.chain (greatestDepth - depth) ray) ∧
        sighting = scene.sightAlong (scene.chain (greatestDepth - depth) ray) := by
  rw [trace_eq_see]
  generalize scene.chain (greatestDepth - depth) ray = chain
  by_cases hits : chain.hits = []
  · cases chain with
    | fault fault =>
      refine iff_of_false (fun isSighting => ?_) fun clears => clears.1.1 rfl
      cases isSighting
    | miss =>
      have clears : scene.Clears .miss := ⟨by simp [Chain.ending], by simp [Chain.hits]⟩
      rw [and_iff_right clears]
      exact ⟨fun same => (Except.ok.inj same).symm, fun same => congrArg _ same.symm⟩
    | last hit cutOff => cases hits
    | mirror hit next => cases hits
  · have viewed : scene.sightAlong chain = ⟨scene.radiance chain, true⟩ :=
      if_neg fun empty => hits (List.isEmpty_iff.mp empty)
    rw [outcome_see_of_hits scene hits, viewed]
    constructor
    · intro isSighting
      obtain ⟨color, isColor, rfl⟩ := exists_of_map_eq_ok isSighting
      obtain ⟨clears, rfl⟩ := received_eq_ok_iff.mp isColor
      exact ⟨clears, rfl⟩
    · rintro ⟨clears, rfl⟩
      rw [received_eq_ok_iff.mpr ⟨clears, rfl⟩]
      rfl

end Scene

end RayTracer
