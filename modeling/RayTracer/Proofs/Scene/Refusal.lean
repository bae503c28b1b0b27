import RayTracer.Proofs.Scene.History
import RayTracer.Proofs.Scene.Picture

/-!
# When a scene refuses to render

A scene refuses to render for four reasons, and when several hold, the first of
them is reported: there is no size, there is no view, the scene is not prepared,
or the picture has another size (`check_eq`). Which of them hold is decided by
what was done to the scene (`render_after`). A refusal changes neither the picture
nor the scene.

A scene that does not refuse completes the picture when the meshes that were added
to it refer to their own vertices and the picture has no row beyond its height. A face
without its vertices makes rendering fault, and so does a pixel too many
(`render_faults`).
-/

set_option autoImplicit false

namespace RayTracer

namespace Scene

variable {S : Type} [Scalar S]

/-! ## The checks -/

theorem check_eq (scene : Scene S) (actual : ImageSize) :
    scene.check actual =
      match scene.imageSize, scene.view, scene.prepared with
      | none, _, _ => .error .imageSizeNotSet
      | some _, none, _ => .error .cameraNotConfigured
      | some _, some _, false => .error .notPrepared
      | some expected, some view, true =>
        if actual = expected then .ok (.ofView view expected.width expected.height)
        else .error (.bufferSizeMismatch expected actual) := by
  unfold check camera
  cases scene.imageSize with
  | none => rfl
  | some expected =>
    cases scene.view with
    | none => rfl
    | some view => cases scene.prepared <;> rfl

section Check

variable {scene : Scene S} {actual : ImageSize}

theorem check_eq_imageSizeNotSet_iff :
    scene.check actual = .error .imageSizeNotSet ↔ scene.imageSize = none := by
  rw [check_eq]
  grind

theorem check_eq_cameraNotConfigured_iff :
    scene.check actual = .error .cameraNotConfigured ↔
      scene.imageSize ≠ none ∧ scene.view = none := by
  rw [check_eq]
  grind

theorem check_eq_notPrepared_iff :
    scene.check actual = .error .notPrepared ↔
      scene.imageSize ≠ none ∧ scene.view ≠ none ∧ ¬scene.prepared = true := by
  rw [check_eq]
  grind

theorem check_eq_bufferSizeMismatch_iff {expected other : ImageSize} :
    scene.check actual = .error (.bufferSizeMismatch expected other) ↔
      scene.imageSize = some expected ∧ scene.view ≠ none ∧ scene.prepared = true ∧
        other = actual ∧ other ≠ expected := by
  rw [check_eq]
  grind

theorem exists_check_eq_ok_iff :
    (∃ camera, scene.check actual = .ok camera) ↔
      scene.imageSize = some actual ∧ scene.view ≠ none ∧ scene.prepared = true := by
  rw [check_eq]
  constructor
  · rintro ⟨camera, passed⟩
    grind
  · rintro ⟨isSize, hasView, isPrepared⟩
    obtain ⟨view, isView⟩ := Option.ne_none_iff_exists'.mp hasView
    simp [isSize, isView, isPrepared]

end Check

/-! ## Rendering -/

section Rendering

variable [Single S] {scene : Scene S} {image : Image} {greatestDepth : Nat}

theorem render_of_check_eq_error {error : SceneError}
    (refused : scene.check image.size = .error error) :
    scene.render image greatestDepth = ⟨.refused error, image, scene⟩ := by
  unfold render
  rw [refused]

/-- A scene refuses for the reason that its check gives. -/
theorem outcome_eq_refused_iff {error : SceneError} :
    (scene.render image greatestDepth).outcome = .refused error ↔
      scene.check image.size = .error error := by
  cases checked : scene.check image.size with
  | error reason => simp [render_of_check_eq_error checked]
  | ok camera =>
    refine iff_of_false ?_ (by simp)
    unfold render
    rw [checked]
    dsimp only
    split <;> simp

theorem outcome_of_fault {camera : Camera S} {fault : OutOfRange}
    (checked : scene.check image.size = .ok camera)
    (faulted : (scene.paint camera greatestDepth image).fault = some fault) :
    (scene.render image greatestDepth).outcome = .faulted fault := by
  unfold render
  rw [checked]
  dsimp only
  rw [faulted]

/-- A scene of well-formed shapes that passes the check completes a picture that has no
row beyond its height. -/
theorem exists_report_of_wellFormed [IsTrans S (· < ·)] {camera : Camera S}
    (checked : scene.check image.size = .ok camera) (wellFormed : WellFormed scene.renderables)
    (few : image.width = 0 ∨ image.pixels.size ≤ image.width * image.height) :
    ∃ report, (scene.render image greatestDepth).outcome = .finished report := by
  obtain ⟨log, final, runs, finished, painted⟩ := runs_paint scene camera greatestDepth image
  have clear : scene.Clear camera image greatestDepth := fun row inRange =>
    ⟨Image.rows_lt_height_iff.mpr few row inRange, fun column _ =>
      succeeds_pixelColor wellFormed camera column (image.size.height - 1 - row) greatestDepth⟩
  have noFault := (fault_eq_none_iff runs finished).mpr clear
  have rendered := render_of_fault_eq_none scene checked painted.symm noFault
  exact ⟨_, congrArg Rendering.outcome rendered⟩

/-- A picture with more pixels than its columns and rows demand makes rendering fault. -/
theorem exists_fault_of_crowded {camera : Camera S}
    (checked : scene.check image.size = .ok camera) (wide : image.width ≠ 0)
    (crowded : image.width * image.height < image.pixels.size) :
    ∃ fault, (scene.render image greatestDepth).outcome = .faulted fault := by
  obtain ⟨log, final, runs, finished, painted⟩ := runs_paint scene camera greatestDepth image
  cases isFault : final.canvas.fault with
  | some fault => exact ⟨fault, outcome_of_fault checked (painted ▸ isFault)⟩
  | none =>
    have clear := (fault_eq_none_iff runs finished).mp isFault
    obtain narrow | few := Image.rows_lt_height_iff.mp fun row inRange => (clear row inRange).1
    · exact absurd narrow wide
    · exact absurd crowded (Nat.not_lt_of_le few)

end Rendering

/-! ## What the history decides -/

section History

variable [Single S]

/-- A shape that is ready is well formed when the vertex indices it was added with are in range. -/
theorem wellFormed_after {history : List (Operation S)} (prepared : (after history).prepared = true)
    (indexed : ∀ added, Since (· = .add added) (· = .clear) history → added.shape.Indexed) :
    WellFormed (after history).renderables := by
  intro present member
  obtain ⟨added, since, surface, -⟩ := exists_added member
  have inRange : present.shape.Indexed := by
    rw [← Shape.indexed_bare_iff, surface, Shape.indexed_bare_iff]
    exact indexed added since
  rw [← ready_of_prepared prepared present member]
  exact Shape.wellFormed_prepare inRange

theorem imageSize_after_ne_none_iff {history : List (Operation S)} :
    (after history).imageSize ≠ none ↔ ∃ size, .setImageSize size ∈ history := by
  rw [← exists_since_iff fun _ => Iff.rfl, Option.ne_none_iff_exists']
  exact exists_congr fun size => imageSize_after_eq_some_iff

theorem view_after_ne_none_iff {history : List (Operation S)} :
    (after history).view ≠ none ↔ ∃ view, .setView view ∈ history := by
  rw [← exists_since_iff fun _ => Iff.rfl, Option.ne_none_iff_exists']
  exact exists_congr fun view => view_after_eq_some_iff

/-- **What a scene does when it is to render is decided by its history.** It has no
size when none was set; else no view when none was set; else it is not prepared when
it was not prepared since a renderable was added or all were removed; else the picture
has the wrong size when that is not the one set last; else it does not refuse. It then
completes the picture when the faces of the meshes added since the last removal have
their vertices and the picture has no more pixels than its columns and rows demand; a
picture with columns and more pixels makes it fault. A refusal changes neither the
picture nor the scene. -/
theorem render_after [IsTrans S (· < ·)] (history : List (Operation S)) (image : Image)
    (greatestDepth : Nat) :
    let rendering := (after history).render image greatestDepth
    let sized := ∃ size, .setImageSize size ∈ history
    let viewed := ∃ view, .setView view ∈ history
    let prepared := Since (· = .prepare) Operation.ChangesRenderables history
    let lastSized (size : ImageSize) := Since (· = .setImageSize size) Operation.SetsSize history
    (rendering.outcome = .refused .imageSizeNotSet ↔ ¬sized) ∧
    (rendering.outcome = .refused .cameraNotConfigured ↔ sized ∧ ¬viewed) ∧
    (rendering.outcome = .refused .notPrepared ↔ sized ∧ viewed ∧ ¬prepared) ∧
    (∀ expected actual, rendering.outcome = .refused (.bufferSizeMismatch expected actual) ↔
      lastSized expected ∧ viewed ∧ prepared ∧ actual = image.size ∧ actual ≠ expected) ∧
    ((∀ error, rendering.outcome ≠ .refused error) ↔
      lastSized image.size ∧ viewed ∧ prepared) ∧
    (lastSized image.size ∧ viewed ∧ prepared →
      (∀ added, Since (· = .add added) (· = .clear) history → added.shape.Indexed) →
      image.width = 0 ∨ image.pixels.size ≤ image.width * image.height →
      ∃ report, rendering.outcome = .finished report) ∧
    (lastSized image.size ∧ viewed ∧ prepared → image.width ≠ 0 →
      image.width * image.height < image.pixels.size →
      ∃ fault, rendering.outcome = .faulted fault) ∧
    ∀ error, rendering.outcome = .refused error →
      rendering.image = image ∧ rendering.scene = after history := by
  intro rendering sized viewed prepared lastSized
  have accepts : (∃ camera, (after history).check image.size = .ok camera) ↔
      lastSized image.size ∧ viewed ∧ prepared := by
    rw [exists_check_eq_ok_iff, imageSize_after_eq_some_iff, view_after_ne_none_iff,
      prepared_after_iff]
  refine ⟨?_, ?_, ?_, ?_, ?_, ?_, ?_, ?_⟩
  · rw [outcome_eq_refused_iff, check_eq_imageSizeNotSet_iff, ← not_iff_not, not_not]
    exact imageSize_after_ne_none_iff
  · rw [outcome_eq_refused_iff, check_eq_cameraNotConfigured_iff, imageSize_after_ne_none_iff,
      ← not_ne_iff, view_after_ne_none_iff]
  · rw [outcome_eq_refused_iff, check_eq_notPrepared_iff, imageSize_after_ne_none_iff,
      view_after_ne_none_iff, prepared_after_iff]
  · intro expected actual
    rw [outcome_eq_refused_iff, check_eq_bufferSizeMismatch_iff, imageSize_after_eq_some_iff,
      view_after_ne_none_iff, prepared_after_iff]
  · rw [← accepts]
    simp only [ne_eq, rendering, outcome_eq_refused_iff]
    cases (after history).check image.size <;> simp
  · intro accepted indexed few
    obtain ⟨camera, checked⟩ := accepts.mpr accepted
    have wellFormed := wellFormed_after (prepared_after_iff.mpr accepted.2.2) indexed
    exact exists_report_of_wellFormed checked wellFormed few
  · intro accepted wide crowded
    obtain ⟨camera, checked⟩ := accepts.mpr accepted
    exact exists_fault_of_crowded checked wide crowded
  · intro error refused
    have same : rendering = _ := render_of_check_eq_error (outcome_eq_refused_iff.mp refused)
    exact ⟨congrArg Rendering.image same, congrArg Rendering.scene same⟩

end History

/-! ## What makes rendering fault -/

/-- A mesh without vertices that has a face. -/
def strayFace : Mesh S := .ofParts #[] #[] #[⟨0, 1, 2⟩]

/-- A stray face that has been removed does no harm, and a missing pixel does none either.
A pixel too many does. -/
theorem render_after_removal :
    let history : List (Operation Float) := [.add ⟨.mesh strayFace, .standard⟩, .prepare, .clear,
      .setView .standard, .add ⟨.sphere .unit, .standard⟩, .prepare, .addLight .white,
      .setImageSize ⟨2, 1⟩]
    let short : Image := ⟨2, 1, #[.clear]⟩
    let long : Image := ⟨2, 1, #[.clear, .clear, .clear]⟩
    Since (· = .setImageSize short.size) Operation.SetsSize history ∧
      (∃ view, .setView view ∈ history) ∧
      Since (· = .prepare) Operation.ChangesRenderables history ∧
      (∀ added, Since (· = .add added) (· = .clear) history → added.shape.Indexed) ∧
      (∃ report, ((after history).render short 3).outcome = .finished report) ∧
      ∃ fault, ((after history).render long 3).outcome = .faulted fault := by
  intro history short long
  have sized : Since (· = .setImageSize short.size) Operation.SetsSize history :=
    imageSize_after_eq_some_iff.mp rfl
  have viewed : ∃ view, Operation.setView view ∈ history := ⟨.standard, by simp [history]⟩
  have prepared : Since (· = .prepare) Operation.ChangesRenderables history :=
    prepared_after_iff.mp rfl
  have indexed (added : Renderable Float)
      (since : Since (· = .add added) (· = .clear) history) : added.shape.Indexed := by
    obtain rfl : added = ⟨.sphere .unit, .standard⟩ := by
      simpa [history, since_cons, eq_comm] using since
    trivial
  obtain ⟨-, -, -, -, -, finishes, -, -⟩ := render_after history short 3
  obtain ⟨-, -, -, -, -, -, faults, -⟩ := render_after history long 3
  exact ⟨sized, viewed, prepared, indexed,
    finishes ⟨sized, viewed, prepared⟩ indexed (.inr (by decide)),
    faults ⟨sized, viewed, prepared⟩ (by decide) (by decide)⟩

theorem trace_of_closest_eq_error {scene : Scene S} {ray : Ray S} {fault : OutOfRange}
    (faulted : scene.closest ray Scalar.infinity = .error fault) (depth greatestDepth : Nat) :
    scene.trace ray depth greatestDepth = ⟨.error fault, 0⟩ := by
  rw [trace, faulted]
  rfl

/-- Nothing is missing from the scene and the picture has the right size, and rendering
faults all the same: at a face without vertices, or at a pixel too many. -/
theorem render_faults :
    let empty : List (Operation Float) := [.setImageSize ⟨1, 1⟩, .setView .standard, .prepare]
    let stray : List (Operation Float) := [.setImageSize ⟨1, 1⟩, .setView .standard,
      .add ⟨.mesh strayFace, .standard⟩, .prepare]
    let crowded : Image := ⟨1, 1, #[.clear, .clear]⟩
    (∀ history ∈ [empty, stray], (∃ view, .setView view ∈ history) ∧
      Since (· = .prepare) Operation.ChangesRenderables history ∧
      Since (· = .setImageSize ⟨1, 1⟩) Operation.SetsSize history) ∧
    ((after stray).render (.blank 1 1) 0).outcome = .faulted ⟨0, 0⟩ ∧
    crowded.size = ⟨1, 1⟩ ∧
    ∃ fault, ((after empty).render crowded 0).outcome = .faulted fault := by
  intro empty stray crowded
  have complete (history : List (Operation Float)) (member : history ∈ [empty, stray]) :
      (∃ view, .setView view ∈ history) ∧
        Since (· = .prepare) Operation.ChangesRenderables history ∧
        Since (· = .setImageSize ⟨1, 1⟩) Operation.SetsSize history := by
    obtain rfl | rfl : history = empty ∨ history = stray := by simpa using member
    · exact ⟨⟨.standard, by simp [empty]⟩, prepared_after_iff.mp rfl,
        imageSize_after_eq_some_iff.mp rfl⟩
    · exact ⟨⟨.standard, by simp [stray]⟩, prepared_after_iff.mp rfl,
        imageSize_after_eq_some_iff.mp rfl⟩
  have blind (ray : Ray Float) :
      (after stray).closest ray Scalar.infinity = .error ⟨0, 0⟩ := rfl
  have pixels (camera : Camera Float) (column row : Nat) :
      (after stray).pixelColor camera column row 0 = ⟨.error ⟨0, 0⟩, 0⟩ := by
    rw [pixelColor, trace_of_closest_eq_error (blind _)]
    rfl
  have row : (after stray).rowEffects (.ofView .standard 1 1) (.blank 1 1) 0 0 =
      [.count 0, .fail ⟨0, 0⟩] := by
    change Effect.untilFault (pixelEffects _ _ ⟨1, 1⟩ 0 0 0 ++ []) = _
    simp only [pixelEffects, pixels]
    rfl
  have painted : (after stray).paint (.ofView .standard 1 1) 0 (.blank 1 1) =
      ⟨.blank 1 1, .zero, some ⟨0, 0⟩⟩ :=
    congrArg (List.foldl Canvas.apply ⟨.blank 1 1, .zero, none⟩) row
  have strayChecked : (after stray).check (Image.blank 1 1).size =
      .ok (.ofView .standard 1 1) := rfl
  have emptyChecked : (after empty).check crowded.size = .ok (.ofView .standard 1 1) := rfl
  refine ⟨complete, ?_, rfl, ?_⟩
  · exact outcome_of_fault strayChecked (congrArg Canvas.fault painted)
  · exact exists_fault_of_crowded emptyChecked (by decide) (by decide)

end Scene

end RayTracer
