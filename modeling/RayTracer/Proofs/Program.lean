import RayTracer.Program
import RayTracer.Proofs.Ingest.Additions
import RayTracer.Proofs.Scene.Refusal

/-!
# Rendering never fails

The program fills a scene, prepares it and renders it into a picture that it has made for
it. The scene then has the size of the picture, a view and nothing that was added since it
was prepared, so it does not refuse; and all it holds are the shapes of the demonstration
and usable meshes, so nothing faults (`Settings.render_finishes`). What the settings say
and what the meshes hold makes no difference, so the only failures left are those of
files.
-/

set_option autoImplicit false

namespace RayTracer

variable {S : Type} [Scalar S]

/-! ## The scene -/

/-- The shapes of the demonstration have no vertex indices. -/
theorem Demo.indexed_of_mem {renderable : Renderable S} (member : renderable ∈ Demo.renderables) :
    renderable.shape.Indexed := by
  rw [renderables, List.cons_append, List.mem_cons, List.mem_append, List.mem_map,
    List.mem_singleton] at member
  obtain rfl | ⟨index, -, rfl⟩ | rfl := member <;> trivial

namespace Settings

/-- The renderables of the picture: the demonstration and the usable meshes. -/
def renderables (settings : Settings S) (inputs : List (MeshInput S)) : List (Renderable S) :=
  Demo.renderables ++
    (MeshInput.usable inputs).map fun mesh => ⟨.accelerated mesh, settings.meshMaterial⟩

/-- The scene of the picture in full. -/
theorem scene_eq (settings : Settings S) (inputs : List (MeshInput S)) :
    (settings.scene inputs).scene =
      { renderables := settings.renderables inputs
        lights := settings.selectedLights.lights
        view := some settings.camera
        imageSize := some settings.size
        prepared := false
        counters := .zero
        background := settings.background
        lightIntensity := settings.lightIntensity
        workerThreads := settings.workerThreads } := by
  rw [scene, Scene.addMeshes, Addition.scene_addMeshesFrom, Scene.addAll_eq, litScene,
    Scene.addLights_eq, Demo.populate, Scene.addAll_eq]
  simp [applyTo, Scene.setView, Scene.setImageSize, Scene.empty, renderables]

/-- The vertex indices of all that is in the picture are in range. -/
theorem indexed_of_mem_renderables {settings : Settings S} {inputs : List (MeshInput S)}
    {renderable : Renderable S} (member : renderable ∈ settings.renderables inputs) :
    renderable.shape.Indexed := by
  obtain inDemo | inMeshes := List.mem_append.mp member
  · exact Demo.indexed_of_mem inDemo
  · obtain ⟨mesh, isUsable, rfl⟩ := List.mem_map.mp inMeshes
    exact MeshInput.indexed_of_mem_usable isUsable

/-- The scene that is rendered is well formed. -/
theorem wellFormed_scene (settings : Settings S) (inputs : List (MeshInput S)) :
    Scene.WellFormed (settings.scene inputs).scene.prepare.renderables := by
  rw [scene_eq]
  exact Scene.wellFormed_prepare fun renderable member => indexed_of_mem_renderables member

/-- The scene that is rendered does not refuse a picture of the size in the settings. -/
theorem exists_check_eq_ok (settings : Settings S) (inputs : List (MeshInput S)) :
    ∃ camera, (settings.scene inputs).scene.prepare.check settings.size = .ok camera := by
  rw [scene_eq, Scene.exists_check_eq_ok_iff]
  exact ⟨rfl, Option.some_ne_none _, rfl⟩

/-! ## Rendering -/

variable [Single S] [IsTrans S (· < ·)]

/-- **Rendering finishes, whatever the settings and the meshes are.** No ray that is traced
makes anything fault, and no schedule of the workers does; the row of a pixel counted from
the bottom is never negative. So all that is left to do is to write the picture. -/
theorem render_finishes (settings : Settings S) (inputs : List (MeshInput S)) :
    let scene := (settings.scene inputs).scene.prepare
    let image := Image.blank settings.width settings.height
    (∃ report, (settings.render inputs).outcome = .finished report) ∧
    (∀ ray depth greatestDepth, (scene.trace ray depth greatestDepth).Succeeds) ∧
    (∀ camera log final, (scene.workers camera settings.maxDepth image).Runs log final →
      final.Finished → final.canvas.fault = none) ∧
    (∀ row < image.rowCount, settings.height - 1 - row + row + 1 = settings.height) ∧
    ∀ {m : Type → Type} [Monad m] (host : Host m), produce host settings inputs =
      writePicture host settings.output (settings.render inputs).image := by
  intro scene image
  have wellFormed : Scene.WellFormed scene.renderables := settings.wellFormed_scene inputs
  have full : image.Full := Image.full_blank settings.width settings.height
  have finishes : ∃ report, (settings.render inputs).outcome = .finished report := by
    obtain ⟨camera, checked⟩ := settings.exists_check_eq_ok inputs
    have sized : scene.check image.size = .ok camera := checked
    exact Scene.exists_report_of_wellFormed sized wellFormed (.inr full.le)
  refine ⟨finishes, fun ray depth greatestDepth => ?_, ?_, ?_, ?_⟩
  · exact Scene.succeeds_trace wellFormed ray depth greatestDepth
  · intro camera log final runs finished
    refine (Scene.fault_eq_none_iff runs finished).mpr ((Scene.clear_iff_of_full full).mpr ?_)
    exact fun row _ column _ =>
      Scene.succeeds_pixelColor wellFormed camera column _ settings.maxDepth
  · intro row inRange
    have inHeight : row < settings.height := full.lt_height inRange
    omega
  · intro m _ host
    obtain ⟨report, isFinished⟩ := finishes
    unfold produce
    dsimp only
    rw [isFinished]

/-- A picture of two rows of three pixels in a light that is no number, of two meshes of
which one cannot be used. -/
theorem render_finishes_untidy :
    let settings : Settings Float :=
      { standard with width := 3, height := 2, lightIntensity := 0 / 0 }
    (Image.blank settings.width settings.height).rowCount = 2 ∧
      ∃ report, (settings.render [.empty, .untidy]).outcome = .finished report :=
  ⟨rfl, (render_finishes _ _).1⟩

end Settings

end RayTracer
