import RayTracer.Scene.Render
import RayTracer.Proofs.Scene.Agreement

/-!
# Tracing a ray

What a ray sees does not depend on the counters of the scene, so it makes no
difference to a pixel what has been counted before, or is counted by others at
the same time (`Scene.pixelColor_withCounters`). Tracing faults only when a query
does; in a scene of well-formed shapes none does (`Scene.succeeds_pixelColor`).

Both are shown by induction on the mirrored rays that may still follow
(`Scene.trace_induction`).
-/

set_option autoImplicit false

namespace RayTracer

/-! ## One computation after another -/

namespace Counted

variable {α β : Type} {first : Counted α}

theorem bind_of_ok {value : α} (isValue : first.outcome = .ok value) (next : α → Counted β) :
    first >>= next = ⟨(next value).outcome, first.tally + (next value).tally⟩ := by
  change Counted.bind first next = _
  rw [Counted.bind, isValue]

theorem bind_of_error {fault : OutOfRange} (isFault : first.outcome = .error fault)
    (next : α → Counted β) : first >>= next = ⟨.error fault, first.tally⟩ := by
  change Counted.bind first next = _
  rw [Counted.bind, isFault]

theorem uncounted_bind (value : α) (next : α → Counted β) :
    uncounted (.ok value) >>= next = next value := by
  rw [bind_of_ok rfl]
  exact Counted.ext rfl (Tally.ext (Nat.zero_add _) (Nat.zero_add _))

theorem bind_pure_comp (counted : Counted α) (function : α → β) :
    (counted >>= fun value => Pure.pure (function value)) =
      ⟨counted.outcome.map function, counted.tally⟩ := by
  cases isOutcome : counted.outcome with
  | ok value =>
    rw [bind_of_ok isOutcome]
    exact Counted.ext rfl rfl
  | error fault =>
    rw [bind_of_error isOutcome]
    rfl

/-! ## Computations that succeed -/

/-- A counted computation that does not fault. -/
def Succeeds (counted : Counted α) : Prop := ∃ value, counted.outcome = .ok value

theorem succeeds_pure (value : α) : (Pure.pure value : Counted α).Succeeds := ⟨value, rfl⟩

theorem succeeds_uncounted {outcome : Except OutOfRange α} {value : α}
    (isValue : outcome = .ok value) : (uncounted outcome).Succeeds :=
  ⟨value, isValue⟩

theorem Succeeds.bind {first : Counted α} {next : α → Counted β} (succeeds : first.Succeeds)
    (then_succeeds : ∀ value, (next value).Succeeds) : (first >>= next).Succeeds := by
  obtain ⟨value, isValue⟩ := succeeds
  obtain ⟨result, isResult⟩ := then_succeeds value
  exact ⟨result, (congrArg outcome (bind_of_ok isValue next)).trans isResult⟩

theorem succeeds_bind_iff {next : α → Counted β} :
    (first >>= next).Succeeds ↔ first.Succeeds ∧
      ∀ value, first.outcome = .ok value → (next value).Succeeds := by
  cases isOutcome : first.outcome with
  | ok value => simp [bind_of_ok isOutcome, Succeeds, isOutcome]
  | error fault => simp [bind_of_error isOutcome, Succeeds, isOutcome]

theorem succeeds_bind_pure_iff {function : α → β} :
    (first >>= fun value => Pure.pure (function value)).Succeeds ↔ first.Succeeds := by
  rw [bind_pure_comp, Succeeds, Succeeds]
  cases first.outcome <;> simp [Except.map]

theorem succeeds_foldlM {step : β → α → Counted β} (list : List α)
    (succeeds : ∀ state, ∀ item ∈ list, (step state item).Succeeds) (start : β) :
    (list.foldlM step start).Succeeds := by
  induction list generalizing start with
  | nil => exact succeeds_pure start
  | cons item rest ih =>
    exact (succeeds start item List.mem_cons_self).bind fun state =>
      ih (fun state other member => succeeds state other (List.mem_cons_of_mem _ member)) state

end Counted

namespace Scene

variable {S : Type}

/-- A property of rays at depths of recursion holds in general when it holds of a
ray as soon as it holds of the rays one level deeper that may follow. -/
theorem trace_induction (greatestDepth : Nat) {motive : Ray S → Nat → Prop}
    (step : ∀ ray depth, (depth < greatestDepth → ∀ mirrored, motive mirrored (depth + 1)) →
      motive ray depth) (ray : Ray S) (depth : Nat) : motive ray depth := by
  generalize deeper : greatestDepth - depth = levels
  induction levels generalizing ray depth with
  | zero => exact step ray depth fun less => absurd deeper (Nat.sub_ne_zero_of_lt less)
  | succ levels ih =>
    exact step ray depth fun _ mirrored => ih mirrored (depth + 1) (by omega)

variable [Scalar S]

/-! ## The counters are not read -/

theorem trace_withCounters (scene : Scene S) (counters : Counters) (greatestDepth : Nat)
    (ray : Ray S) (depth : Nat) :
    trace { scene with counters } ray depth greatestDepth =
      scene.trace ray depth greatestDepth := by
  induction ray, depth using trace_induction greatestDepth with
  | step ray depth ih =>
    have shaded (intersection : Intersection S) :
        shade { scene with counters } intersection depth greatestDepth =
          scene.shade intersection depth greatestDepth := by
      rw [shade, shade]
      cases scene.renderables[intersection.renderable]? with
      | none => rfl
      | some renderable =>
        by_cases deeper : depth < greatestDepth
        · simp only [ih deeper]
          rfl
        · simp only [deeper, false_and, if_false]
          rfl
    rw [trace, trace]
    simp only [shaded]
    rfl

theorem pixelColor_withCounters (scene : Scene S) (counters : Counters) (camera : Camera S)
    (column row greatestDepth : Nat) :
    pixelColor { scene with counters } camera column row greatestDepth =
      scene.pixelColor camera column row greatestDepth := by
  rw [pixelColor, pixelColor, trace_withCounters]

/-! ## Well-formed scenes do not fault -/

section WellFormed

variable [IsTrans S (· < ·)] {scene : Scene S} (wellFormed : WellFormed scene.renderables)
include wellFormed

theorem succeeds_addContribution (material : Material S) (intersection : Intersection S)
    (color : Color S) (light : Light S) :
    (scene.addContribution material intersection color light).Succeeds := by
  obtain ⟨found, -, answered, -⟩ := agree_of_wellFormed wellFormed
    (.along light.position (intersection.safePoint - light.position))
    (intersection.safePoint - light.position).norm
  refine (Counted.succeeds_uncounted answered).bind fun hidden => ?_
  cases hidden with
  | true => exact Counted.succeeds_pure _
  | false => exact Counted.Succeeds.bind ⟨(), rfl⟩ fun _ => Counted.succeeds_pure _

theorem succeeds_trace (ray : Ray S) (depth greatestDepth : Nat) :
    (scene.trace ray depth greatestDepth).Succeeds := by
  induction ray, depth using trace_induction greatestDepth with
  | step ray depth ih =>
    have shaded (intersection : Intersection S) :
        (scene.shade intersection depth greatestDepth).Succeeds := by
      rw [shade]
      cases scene.renderables[intersection.renderable]? with
      | none => exact Counted.succeeds_pure _
      | some renderable =>
        refine (Counted.succeeds_foldlM _ (fun color light _ =>
          succeeds_addContribution wellFormed renderable.material intersection color light)
          0).bind fun color => ?_
        split
        · rename_i follows
          exact (ih follows.1 _).bind fun sighting => Counted.succeeds_pure _
        · exact Counted.succeeds_pure _
    obtain ⟨found, searched, -⟩ := agree_of_wellFormed wellFormed ray Scalar.infinity
    rw [trace]
    refine (Counted.succeeds_uncounted searched).bind fun nearest => ?_
    cases nearest with
    | none => exact Counted.succeeds_pure _
    | some intersection =>
      exact Counted.Succeeds.bind ⟨(), rfl⟩ fun _ =>
        (shaded intersection).bind fun color => Counted.succeeds_pure _

/-- No pixel of a well-formed scene faults. -/
theorem succeeds_pixelColor (camera : Camera S) (column row greatestDepth : Nat) :
    (scene.pixelColor camera column row greatestDepth).Succeeds :=
  (succeeds_trace wellFormed _ 0 greatestDepth).bind fun _ => Counted.succeeds_pure _

end WellFormed

end Scene

end RayTracer
