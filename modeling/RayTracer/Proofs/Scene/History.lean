import RayTracer.Scene.Render
import RayTracer.Proofs.Shape.Agreement
import Mathlib.Data.List.Induction

/-!
# Histories of scenes

Whatever is done to a scene is one of a few operations. A history is the list of
the operations that were performed on a new scene, in order.

Of a history only the last operations of certain kinds matter. The size of the
picture and the view are those set last (`imageSize_after_eq_some_iff`,
`view_after_eq_some_iff`). The scene is prepared when nothing has been added or
removed since it was prepared last (`prepared_after_iff`), and then every mesh has
its tree (`ready_of_prepared`). Between two removals a number belongs to one
renderable, whose data and material stay (`exists_matches_after`).
-/

set_option autoImplicit false

namespace RayTracer

variable {S : Type}

/-! ## Operations -/

/-- What can be done to a scene. Tracing a ray and shading an intersection count events. -/
inductive Operation (S : Type) where
  | clear
  | add (renderable : Renderable S)
  | addLight (light : Light S)
  | setImageSize (size : ImageSize)
  | setView (view : View S)
  | setBackground (color : Color S)
  | setLightIntensity (intensity : S)
  | setWorkerThreads (workers : Option Nat)
  | prepare
  | trace (ray : Ray S) (depth greatestDepth : Nat)
  | shade (intersection : Intersection S) (depth greatestDepth : Nat)
  | render (image : Image) (greatestDepth : Nat)

namespace Operation

/-- An operation that sets the size of the picture. -/
def SetsSize (operation : Operation S) : Prop := ∃ size, operation = .setImageSize size

/-- An operation that sets the view. -/
def SetsView (operation : Operation S) : Prop := ∃ view, operation = .setView view

/-- An operation that adds a renderable or removes all. -/
def ChangesRenderables (operation : Operation S) : Prop :=
  operation = .clear ∨ ∃ renderable, operation = .add renderable

end Operation

/-- An operation of one kind has been performed, and none of another kind since. -/
def Since (kind ending : Operation S → Prop) (history : List (Operation S)) : Prop :=
  ∃ earlier operation later, history = earlier ++ operation :: later ∧ kind operation ∧
    ∀ other ∈ later, ¬ending other

section Since

variable {kind ending : Operation S → Prop}

@[simp] theorem not_since_nil : ¬Since kind ending [] := by
  simp [Since]

theorem since_concat {history : List (Operation S)} {last : Operation S} :
    Since kind ending (history ++ [last]) ↔
      kind last ∨ (Since kind ending history ∧ ¬ending last) := by
  constructor
  · rintro ⟨earlier, operation, later, split, isKind, lasting⟩
    cases later using List.reverseRecOn with
    | nil =>
      obtain ⟨-, rfl⟩ := List.append_singleton_inj.mp split
      exact .inl isKind
    | append_singleton later final =>
      rw [← List.cons_append, ← List.append_assoc] at split
      obtain ⟨rfl, rfl⟩ := List.append_singleton_inj.mp split
      refine .inr ⟨⟨earlier, operation, later, rfl, isKind, ?_⟩, lasting last (by simp)⟩
      exact fun other member => lasting other (List.mem_append_left _ member)
  · rintro (isKind | ⟨⟨earlier, operation, later, rfl, isKind, lasting⟩, notEnding⟩)
    · exact ⟨history, last, [], rfl, isKind, by simp⟩
    · refine ⟨earlier, operation, later ++ [last], by simp, isKind, ?_⟩
      intro other member
      obtain before | here := List.mem_append.mp member
      · exact lasting other before
      · obtain rfl := List.mem_singleton.mp here
        exact notEnding

theorem since_cons {first : Operation S} {rest : List (Operation S)} :
    Since kind ending (first :: rest) ↔
      (kind first ∧ ∀ other ∈ rest, ¬ending other) ∨ Since kind ending rest := by
  constructor
  · rintro ⟨_ | ⟨_, earlier⟩, operation, later, split, isKind, lasting⟩
    · obtain ⟨rfl, rfl⟩ := List.cons.inj split
      exact .inl ⟨isKind, lasting⟩
    · exact .inr ⟨earlier, operation, later, (List.cons.inj split).2, isKind, lasting⟩
  · rintro (⟨isKind, lasting⟩ | ⟨earlier, operation, later, rfl, isKind, lasting⟩)
    · exact ⟨[], first, rest, rfl, isKind, lasting⟩
    · exact ⟨first :: earlier, operation, later, rfl, isKind, lasting⟩

/-- There is a last operation of a kind when there is any. -/
theorem since_self_iff {history : List (Operation S)} :
    Since kind kind history ↔ ∃ operation ∈ history, kind operation := by
  induction history using List.reverseRecOn with
  | nil => simp
  | append_singleton history last ih =>
    rw [since_concat, ih]
    by_cases isKind : kind last <;> simp [isKind, or_and_right, exists_or]

theorem exists_since_iff {Value : Type} {operation : Value → Operation S}
    {history : List (Operation S)}
    (isKind : ∀ other, kind other ↔ ∃ value, other = operation value) :
    (∃ value, Since (· = operation value) kind history) ↔ ∃ value, operation value ∈ history := by
  have gather : (∃ value, Since (· = operation value) kind history) ↔ Since kind kind history := by
    constructor
    · rintro ⟨value, earlier, other, later, split, rfl, lasting⟩
      exact ⟨earlier, _, later, split, (isKind _).mpr ⟨value, rfl⟩, lasting⟩
    · rintro ⟨earlier, other, later, split, ofKind, lasting⟩
      obtain ⟨value, rfl⟩ := (isKind _).mp ofKind
      exact ⟨value, earlier, _, later, split, rfl, lasting⟩
  rw [gather, since_self_iff]
  constructor
  · rintro ⟨other, member, ofKind⟩
    obtain ⟨value, rfl⟩ := (isKind _).mp ofKind
    exact ⟨value, member⟩
  · rintro ⟨value, member⟩
    exact ⟨_, member, (isKind _).mpr ⟨value, rfl⟩⟩

end Since

/-! ## Shapes without their trees -/

namespace Shape

/-- A shape without its tree. -/
def bare : Shape S → Shape S
  | .accelerated surface => .accelerated (.ofMesh surface.mesh)
  | other => other

theorem indexed_bare_iff {shape : Shape S} : shape.bare.Indexed ↔ shape.Indexed := by
  cases shape <;> rfl

variable [Scalar S]

@[simp] theorem bare_prepare (shape : Shape S) : shape.prepare.bare = shape.bare := by
  cases shape <;> rfl

@[simp] theorem prepare_prepare (shape : Shape S) : shape.prepare.prepare = shape.prepare := by
  cases shape <;> rfl

end Shape

/-- Two renderables have the same surface and the same material. One may have its
tree already, and the other not. -/
def Renderable.Matches (first second : Renderable S) : Prop :=
  first.shape.bare = second.shape.bare ∧ first.material = second.material

/-! ## Scenes -/

namespace Scene

variable [Scalar S]

/-- Preparing once more changes no shape. -/
def Ready (renderables : List (Renderable S)) : Prop :=
  ∀ renderable ∈ renderables, renderable.shape.prepare = renderable.shape

theorem ready_prepare (scene : Scene S) : Ready scene.prepare.renderables := by
  intro renderable member
  obtain ⟨original, -, rfl⟩ := List.mem_map.mp member
  exact original.shape.prepare_prepare

variable [Single S]

/-- The scene after an operation. -/
def perform (scene : Scene S) : Operation S → Scene S
  | .clear => scene.clear
  | .add renderable => (scene.add renderable).1
  | .addLight light => scene.addLight light
  | .setImageSize size => scene.setImageSize size
  | .setView view => scene.setView view
  | .setBackground color => { scene with background := color }
  | .setLightIntensity intensity => { scene with lightIntensity := intensity }
  | .setWorkerThreads workers => { scene with workerThreads := workers }
  | .prepare => scene.prepare
  | .trace ray depth greatestDepth => scene.count (scene.trace ray depth greatestDepth).tally
  | .shade intersection depth greatestDepth =>
    scene.count (scene.shade intersection depth greatestDepth).tally
  | .render image greatestDepth => (scene.render image greatestDepth).scene

/-- The scene after a history. -/
def after (history : List (Operation S)) : Scene S := history.foldl perform empty

theorem after_nil : (after [] : Scene S) = empty := rfl

theorem after_concat (history : List (Operation S)) (last : Operation S) :
    after (history ++ [last]) = (after history).perform last := by
  simp [after]

/-- What a history makes true is decided by its last operation that bears on it. -/
theorem after_iff_since (holds : Scene S → Prop) {kind ending : Operation S → Prop}
    (start : ¬holds empty)
    (step : ∀ scene operation, holds (scene.perform operation) ↔
      kind operation ∨ (holds scene ∧ ¬ending operation))
    (history : List (Operation S)) : holds (after history) ↔ Since kind ending history := by
  induction history using List.reverseRecOn with
  | nil => simpa [after_nil] using start
  | append_singleton history last ih => rw [after_concat, step, since_concat, ih]

/-- Rendering changes nothing of a scene but its counters. -/
theorem exists_scene_render_eq (scene : Scene S) (image : Image) (greatestDepth : Nat) :
    ∃ counters, (scene.render image greatestDepth).scene = { scene with counters } := by
  unfold render
  dsimp only
  cases scene.check image.size with
  | error error => exact ⟨scene.counters, rfl⟩
  | ok camera =>
    dsimp only
    split <;> exact ⟨_, rfl⟩

section Rendering

variable (scene : Scene S) (image : Image) (greatestDepth : Nat)

@[simp] theorem renderables_render :
    (scene.render image greatestDepth).scene.renderables = scene.renderables := by
  obtain ⟨counters, same⟩ := scene.exists_scene_render_eq image greatestDepth
  rw [same]

@[simp] theorem imageSize_render :
    (scene.render image greatestDepth).scene.imageSize = scene.imageSize := by
  obtain ⟨counters, same⟩ := scene.exists_scene_render_eq image greatestDepth
  rw [same]

@[simp] theorem view_render : (scene.render image greatestDepth).scene.view = scene.view := by
  obtain ⟨counters, same⟩ := scene.exists_scene_render_eq image greatestDepth
  rw [same]

@[simp] theorem prepared_render :
    (scene.render image greatestDepth).scene.prepared = scene.prepared := by
  obtain ⟨counters, same⟩ := scene.exists_scene_render_eq image greatestDepth
  rw [same]

end Rendering

/-! ## What was set last -/

theorem imageSize_after_eq_some_iff {history : List (Operation S)} {size : ImageSize} :
    (after history).imageSize = some size ↔
      Since (· = .setImageSize size) Operation.SetsSize history := by
  refine after_iff_since (fun scene => scene.imageSize = some size) (by simp [empty]) ?_ _
  intro scene operation
  cases operation <;> simp [perform, Operation.SetsSize, clear, add, addLight, setImageSize,
    setView, prepare, count]

theorem view_after_eq_some_iff {history : List (Operation S)} {view : View S} :
    (after history).view = some view ↔
      Since (· = .setView view) Operation.SetsView history := by
  refine after_iff_since (fun scene => scene.view = some view) (by simp [empty]) ?_ _
  intro scene operation
  cases operation <;> simp [perform, Operation.SetsView, clear, add, addLight, setImageSize,
    setView, prepare, count]

theorem prepared_after_iff {history : List (Operation S)} :
    (after history).prepared = true ↔
      Since (· = .prepare) Operation.ChangesRenderables history := by
  refine after_iff_since (fun scene => scene.prepared = true) (by simp [empty]) ?_ _
  intro scene operation
  cases operation <;> simp [perform, Operation.ChangesRenderables, clear, add, addLight,
    setImageSize, setView, prepare, count]

/-! ## Trees of a prepared scene -/

/-- **A prepared scene is ready**, whatever was done to it. -/
theorem ready_of_prepared {history : List (Operation S)}
    (prepared : (after history).prepared = true) : Ready (after history).renderables := by
  induction history using List.reverseRecOn with
  | nil => simp [Ready, after_nil, empty]
  | append_singleton history last ih =>
    rw [after_concat] at prepared ⊢
    cases last with
    | clear => cases prepared
    | add renderable => cases prepared
    | prepare => exact ready_prepare _
    | render image greatestDepth => simpa [perform] using ih (by simpa [perform] using prepared)
    | _ => exact ih prepared

/-! ## What a number denotes -/

/-- A renderable keeps its number, its surface and its material until all are removed. -/
theorem exists_matches_perform {scene : Scene S} {operation : Operation S}
    (keeps : operation ≠ .clear) {number : Nat} {renderable : Renderable S}
    (present : scene.renderables[number]? = some renderable) :
    ∃ next, (scene.perform operation).renderables[number]? = some next ∧
      next.Matches renderable := by
  have same : renderable.Matches renderable := ⟨rfl, rfl⟩
  cases operation with
  | clear => exact absurd rfl keeps
  | add other =>
    have inside := (List.getElem?_eq_some_iff.mp present).1
    exact ⟨renderable, (List.getElem?_append_left inside).trans present, same⟩
  | prepare =>
    refine ⟨_, (List.getElem?_map ..).trans (congrArg _ present), ?_⟩
    exact ⟨renderable.shape.bare_prepare, rfl⟩
  | render image greatestDepth => exact ⟨renderable, by simpa [perform] using present, same⟩
  | _ => exact ⟨renderable, present, same⟩

omit [Scalar S] [Single S] in
/-- A renderable that is added is found under the number that is the answer. -/
theorem getElem?_add (scene : Scene S) (renderable : Renderable S) :
    (scene.add renderable).1.renderables[(scene.add renderable).2]? = some renderable := by
  simp [add]

/-- **The number that an addition answers with denotes what was added** until all renderables
are removed. -/
theorem exists_matches_after (earlier : List (Operation S)) (renderable : Renderable S)
    {later : List (Operation S)} (kept : .clear ∉ later) :
    ∃ present, (after (earlier ++ .add renderable :: later)).renderables[
      ((after earlier).add renderable).2]? = some present ∧ present.Matches renderable := by
  induction later using List.reverseRecOn with
  | nil =>
    rw [after_concat]
    exact ⟨renderable, getElem?_add _ renderable, rfl, rfl⟩
  | append_singleton later last ih =>
    simp only [List.mem_append, List.mem_singleton, not_or] at kept
    obtain ⟨present, isPresent, surface, material⟩ := ih kept.1
    obtain ⟨next, isNext, nextSurface, nextMaterial⟩ :=
      exists_matches_perform (Ne.symm kept.2) isPresent
    rw [← List.cons_append, ← List.append_assoc, after_concat]
    exact ⟨next, isNext, nextSurface.trans surface, nextMaterial.trans material⟩

/-- Every renderable of a scene was added, and nothing removed since. -/
theorem exists_added {history : List (Operation S)} {present : Renderable S}
    (member : present ∈ (after history).renderables) :
    ∃ added, Since (· = .add added) (· = .clear) history ∧ present.Matches added := by
  induction history using List.reverseRecOn generalizing present with
  | nil => cases member
  | append_singleton history last ih =>
    rw [after_concat] at member
    have earlier (before : present ∈ (after history).renderables) (keeps : last ≠ .clear) :
        ∃ added, Since (· = .add added) (· = .clear) (history ++ [last]) ∧
          present.Matches added := by
      obtain ⟨added, since, same⟩ := ih before
      exact ⟨added, since_concat.mpr (.inr ⟨since, keeps⟩), same⟩
    cases last with
    | clear => cases member
    | add renderable =>
      obtain before | here := List.mem_append.mp member
      · exact earlier before nofun
      · obtain rfl := List.mem_singleton.mp here
        exact ⟨present, since_concat.mpr (.inl rfl), rfl, rfl⟩
    | prepare =>
      obtain ⟨original, before, rfl⟩ := List.mem_map.mp member
      obtain ⟨added, since, surface, material⟩ := ih before
      refine ⟨added, since_concat.mpr (.inr ⟨since, nofun⟩), ?_, material⟩
      exact original.shape.bare_prepare.trans surface
    | render image greatestDepth =>
      exact earlier (by simpa [perform] using member) nofun
    | _ => exact earlier member nofun

end Scene

end RayTracer
