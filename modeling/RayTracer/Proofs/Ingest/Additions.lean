import RayTracer.Ingest.LightSource
import RayTracer.Proofs.Ingest.Assembly

/-!
# Adding to a scene

What a sequence of additions makes of a scene. Renderables and lights come after those
that are there, in order, and every renderable leaves the scene unprepared
(`Scene.addAll_eq`, `Scene.addLights_eq`).

Of a list of meshes the usable ones are added and counted, and the others change nothing of
the scene: they leave a warning each (`Addition.addMeshesFrom_eq`). So meshes may be added in
several goes, and unusable ones left out (`Scene.addMeshes_skips`). Whatever the meshes are,
what is added to the scene can be prepared without a vertex index out of range
(`MeshInput.indexed_of_mem_usable`).
-/

set_option autoImplicit false

namespace RayTracer

variable {S : Type}

/-! ## Renderables and lights -/

namespace Scene

theorem addAll_eq (renderables : List (Renderable S)) (scene : Scene S) :
    scene.addAll renderables =
      { scene with
        renderables := scene.renderables ++ renderables
        prepared := scene.prepared && renderables.isEmpty } := by
  unfold addAll
  induction renderables generalizing scene with
  | nil => simp
  | cons renderable rest ih =>
    rw [List.foldl_cons, ih]
    simp [add]

theorem addLights_eq (lights : List (Light S)) (scene : Scene S) :
    scene.addLights lights = { scene with lights := scene.lights ++ lights } := by
  unfold addLights
  induction lights generalizing scene with
  | nil => simp
  | cons light rest ih => simp [ih, addLight]

end Scene

/-! ## Meshes -/

variable [Scalar S]

namespace MeshInput

/-- The meshes that pass the checks. -/
def usable (inputs : List (MeshInput S)) : List (AcceleratedMesh S) :=
  inputs.filterMap fun input => input.ingest.toOption

theorem usable_append (first second : List (MeshInput S)) :
    usable (first ++ second) = usable first ++ usable second :=
  List.filterMap_append

theorem mem_usable_iff {inputs : List (MeshInput S)} {accelerated : AcceleratedMesh S} :
    accelerated ∈ usable inputs ↔ ∃ input ∈ inputs, input.ingest = .ok accelerated := by
  rw [usable, List.mem_filterMap]
  refine exists_congr fun input => and_congr_right fun _ => ?_
  cases input.ingest <;> simp [Except.toOption]

/-- There are as many usable meshes as inputs that pass the checks. -/
theorem length_usable (inputs : List (MeshInput S)) :
    (usable inputs).length = inputs.countP fun input => input.ingest.isOk := by
  rw [usable, List.length_filterMap_eq_countP]
  refine List.countP_congr fun input _ => ?_
  cases input.ingest <;> simp [Except.toOption, Except.isOk, Except.toBool]

/-- Inputs that fail the checks may be left out. -/
theorem usable_filter (inputs : List (MeshInput S)) :
    usable (inputs.filter fun input => input.ingest.isOk) = usable inputs := by
  rw [usable, List.filterMap_filter]
  refine List.filterMap_congr fun input _ => ?_
  cases input.ingest <;> simp [Except.toOption, Except.isOk, Except.toBool]

/-- The warning for a mesh with a number, when it fails the checks. -/
def warning? (input : MeshInput S) (number : Nat) : Option String :=
  match input.ingest with
  | .ok _ => none
  | .error error => some (s!"Skipping mesh {number}: " ++ error.message)

/-- The warnings for a list of meshes numbered from a number on. -/
def warnings (inputs : List (MeshInput S)) (number : Nat) : List String :=
  (inputs.zipIdx number).filterMap fun numbered => numbered.1.warning? numbered.2

theorem warnings_cons (input : MeshInput S) (rest : List (MeshInput S)) (number : Nat) :
    warnings (input :: rest) number =
      (input.warning? number).toList ++ warnings rest (number + 1) := by
  cases warned : input.warning? number <;> simp [warnings, warned]

/-- The vertex indices of a usable mesh are in range. -/
theorem indexed_of_mem_usable {inputs : List (MeshInput S)} {accelerated : AcceleratedMesh S}
    (isUsable : accelerated ∈ usable inputs) : accelerated.mesh.Indexed := by
  obtain ⟨input, -, ingested⟩ := mem_usable_iff.mp isUsable
  exact indexed_of_ingest ingested

end MeshInput

namespace Addition

/-- A usable mesh is added, and another one changes nothing of the scene. -/
theorem scene_addMesh (material : Material S) (addition : Addition S) (index : Nat)
    (input : MeshInput S) :
    (addition.addMesh material index input).scene = addition.scene.addAll
      ((MeshInput.usable [input]).map fun mesh => ⟨.accelerated mesh, material⟩) := by
  unfold addMesh
  cases ingested : input.ingest <;>
    simp [MeshInput.usable, ingested, Except.toOption, Scene.addAll]

/-- The usable meshes are added in order. -/
theorem scene_addMeshesFrom (material : Material S) (addition : Addition S) (index : Nat)
    (inputs : List (MeshInput S)) :
    (addition.addMeshesFrom material index inputs).scene = addition.scene.addAll
      ((MeshInput.usable inputs).map fun mesh => ⟨.accelerated mesh, material⟩) := by
  induction inputs generalizing addition index with
  | nil => rfl
  | cons input rest ih =>
    have split : MeshInput.usable (input :: rest) =
        MeshInput.usable [input] ++ MeshInput.usable rest := MeshInput.usable_append [input] rest
    rw [addMeshesFrom, ih, scene_addMesh, split, List.map_append, Scene.addAll, Scene.addAll,
      Scene.addAll, List.foldl_append]

/-- A usable mesh is counted, and for another one there is a warning. -/
theorem report_addMesh (material : Material S) (addition : Addition S) (index : Nat)
    (input : MeshInput S) :
    (addition.addMesh material index input).added =
        addition.added + (MeshInput.usable [input]).length ∧
      (addition.addMesh material index input).warnings =
        addition.warnings ++ (input.warning? index).toList := by
  unfold addMesh MeshInput.warning?
  cases ingested : input.ingest <;> simp [MeshInput.usable, ingested, Except.toOption]

/-- The usable meshes are counted, and there is a warning for each of the others. -/
theorem report_addMeshesFrom (material : Material S) (addition : Addition S) (index : Nat)
    (inputs : List (MeshInput S)) :
    (addition.addMeshesFrom material index inputs).added =
        addition.added + (MeshInput.usable inputs).length ∧
      (addition.addMeshesFrom material index inputs).warnings =
        addition.warnings ++ MeshInput.warnings inputs index := by
  induction inputs generalizing addition index with
  | nil => simp [addMeshesFrom, MeshInput.usable, MeshInput.warnings]
  | cons input rest ih =>
    have split : MeshInput.usable (input :: rest) =
        MeshInput.usable [input] ++ MeshInput.usable rest := MeshInput.usable_append [input] rest
    obtain ⟨count, warned⟩ := addition.report_addMesh material index input
    obtain ⟨restCount, restWarned⟩ := ih (addition.addMesh material index input) (index + 1)
    rw [addMeshesFrom, restCount, restWarned, count, warned, split, List.length_append,
      MeshInput.warnings_cons, Nat.add_assoc, List.append_assoc]
    exact ⟨rfl, rfl⟩

/-- **What adding a list of meshes makes of a scene, a number and a list of warnings.** -/
theorem addMeshesFrom_eq (material : Material S) (addition : Addition S) (index : Nat)
    (inputs : List (MeshInput S)) :
    addition.addMeshesFrom material index inputs =
      { scene := { addition.scene with
          renderables := addition.scene.renderables ++
            (MeshInput.usable inputs).map fun mesh => ⟨.accelerated mesh, material⟩
          prepared := addition.scene.prepared && (MeshInput.usable inputs).isEmpty }
        added := addition.added + (MeshInput.usable inputs).length
        warnings := addition.warnings ++ MeshInput.warnings inputs index } := by
  obtain ⟨count, warned⟩ := addition.report_addMeshesFrom material index inputs
  have scene := addition.scene_addMeshesFrom material index inputs
  rw [Scene.addAll_eq, List.isEmpty_map] at scene
  rw [← scene, ← count, ← warned]

end Addition

namespace Scene

section Addition

variable (scene : Scene S) (inputs : List (MeshInput S)) (material : Material S)

theorem addMeshes_eq :
    scene.addMeshes inputs material =
      { scene := { scene with
          renderables := scene.renderables ++
            (MeshInput.usable inputs).map fun mesh => ⟨.accelerated mesh, material⟩
          prepared := scene.prepared && (MeshInput.usable inputs).isEmpty }
        added := (MeshInput.usable inputs).length
        warnings := MeshInput.warnings inputs 0 } := by
  rw [addMeshes, Addition.addMeshesFrom_eq, Nat.zero_add, List.nil_append]

/-- Two lists of meshes may be added one after the other. -/
theorem addMeshes_append (others : List (MeshInput S)) :
    (scene.addMeshes (inputs ++ others) material).scene =
        ((scene.addMeshes inputs material).scene.addMeshes others material).scene ∧
      (scene.addMeshes (inputs ++ others) material).added =
        (scene.addMeshes inputs material).added +
          ((scene.addMeshes inputs material).scene.addMeshes others material).added := by
  have noneUsable : (MeshInput.usable inputs ++ MeshInput.usable others).isEmpty =
      ((MeshInput.usable inputs).isEmpty && (MeshInput.usable others).isEmpty) := by
    cases MeshInput.usable inputs <;> rfl
  simp [addMeshes_eq, MeshInput.usable_append, noneUsable, Bool.and_assoc]

/-- Unusable meshes may be left out. -/
theorem addMeshes_filter :
    (scene.addMeshes (inputs.filter fun input => input.ingest.isOk) material).scene =
        (scene.addMeshes inputs material).scene ∧
      (scene.addMeshes (inputs.filter fun input => input.ingest.isOk) material).added =
        (scene.addMeshes inputs material).added := by
  simp [addMeshes_eq, MeshInput.usable_filter]

end Addition

/-- **Meshes that fail the checks leave a scene as it is.** The number that is reported is
that of the meshes that pass. These come after the renderables that are there, in order and
with the given material, and the scene is unprepared when there are any. Nothing else of the
scene changes, and every mesh that fails leaves a warning with its number. So it is the same
to add two lists one after the other, and to leave out the meshes that fail. -/
theorem addMeshes_skips (scene : Scene S) (inputs : List (MeshInput S)) (material : Material S) :
    let addition := scene.addMeshes inputs material
    addition.added = (inputs.countP fun input => input.ingest.isOk) ∧
      addition.scene = { scene with
        renderables := scene.renderables ++
          (inputs.filterMap fun input => input.ingest.toOption).map fun mesh =>
            ⟨.accelerated mesh, material⟩
        prepared := if 0 < addition.added then false else scene.prepared } ∧
      addition.warnings = MeshInput.warnings inputs 0 ∧
      (∀ others, (scene.addMeshes (inputs ++ others) material).scene =
          (addition.scene.addMeshes others material).scene ∧
        (scene.addMeshes (inputs ++ others) material).added =
          addition.added + (addition.scene.addMeshes others material).added) ∧
      (scene.addMeshes (inputs.filter fun input => input.ingest.isOk) material).scene =
        addition.scene ∧
      (scene.addMeshes (inputs.filter fun input => input.ingest.isOk) material).added =
        addition.added := by
  intro addition
  have count : addition.added = (MeshInput.usable inputs).length :=
    congrArg Addition.added (scene.addMeshes_eq inputs material)
  refine ⟨count.trans (MeshInput.length_usable inputs), ?_, ?_,
    scene.addMeshes_append inputs material, scene.addMeshes_filter inputs material⟩
  · have unprepared : (scene.prepared && (MeshInput.usable inputs).isEmpty) =
        if 0 < addition.added then false else scene.prepared := by
      rw [count]
      cases MeshInput.usable inputs <;> simp
    rw [← unprepared]
    exact congrArg Addition.scene (scene.addMeshes_eq inputs material)
  · exact congrArg Addition.warnings (scene.addMeshes_eq inputs material)

end Scene

end RayTracer
