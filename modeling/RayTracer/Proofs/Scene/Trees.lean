import RayTracer.Scalar.Binary64
import RayTracer.Proofs.Scene.History

/-!
# No tree is stale or missing

Shapes are made, edited, prepared and copied by hand, in any order, and added to a
scene at any time; shapes of the scene may be copied back. A new shape has no tree,
an edit of a mesh drops its tree, and preparing builds it. So a tree that is there
is that of its mesh at every moment, in hand and in the scene (`Runs.current`).

A scene is prepared only as long as nothing is added, so when it is prepared, every
accelerated mesh in it has its tree (`ready_of_prepared`). `trees_current` puts this
together: no query meets a stale tree, and in a prepared scene none misses one.
-/

set_option autoImplicit false

namespace RayTracer

variable {S : Type} [Scalar S]

/-! ## Shapes -/

/-- An edit drops the tree. -/
theorem AcceleratedMesh.current_edit (accelerated : AcceleratedMesh S)
    (change : Mesh S → Mesh S) : (accelerated.edit change).Current :=
  current_ofMesh _

namespace Shape

/-- A tree of the shape is that of its mesh. -/
def Current : Shape S → Prop
  | .accelerated surface => surface.Current
  | _ => True

theorem current_bare (shape : Shape S) : shape.bare.Current := by
  cases shape with
  | accelerated surface => exact AcceleratedMesh.current_ofMesh _
  | _ => trivial

theorem current_prepare (shape : Shape S) : shape.prepare.Current := by
  cases shape with
  | accelerated surface => exact surface.current_buildTree
  | _ => trivial

end Shape

/-! ## Working on shapes and on a scene -/

/-- Shapes in hand, and a scene. -/
structure Workshop (S : Type) where
  shapes : List (Shape S)
  scene : Scene S

/-- One step of work on the shapes in hand, beside a scene. -/
inductive Craft (scene : Scene S) : List (Shape S) → List (Shape S) → Prop
  | make (shapes : List (Shape S)) (shape : Shape S) : Craft scene shapes (shape.bare :: shapes)
  | copy {shapes : List (Shape S)} {shape : Shape S} (held : shape ∈ shapes) :
      Craft scene shapes (shape :: shapes)
  | copyFromScene (shapes : List (Shape S)) {renderable : Renderable S}
      (present : renderable ∈ scene.renderables) : Craft scene shapes (renderable.shape :: shapes)
  | edit (above below : List (Shape S)) (surface : AcceleratedMesh S)
      (change : Mesh S → Mesh S) :
      Craft scene (above ++ .accelerated surface :: below)
        (above ++ .accelerated (surface.edit change) :: below)
  | prepare (above below : List (Shape S)) (shape : Shape S) :
      Craft scene (above ++ shape :: below) (above ++ shape.prepare :: below)
  | drop (above below : List (Shape S)) (shape : Shape S) :
      Craft scene (above ++ shape :: below) (above ++ below)

theorem Craft.current {scene : Scene S} {shapes crafted : List (Shape S)}
    (craft : Craft scene shapes crafted) (current : ∀ shape ∈ shapes, shape.Current)
    (inScene : ∀ renderable ∈ scene.renderables, renderable.shape.Current) :
    ∀ shape ∈ crafted, shape.Current := by
  cases craft with
  | make _ shape => simpa [shape.current_bare] using current
  | copy held => simpa [current _ held] using current
  | copyFromScene _ present => simpa [inScene _ present] using current
  | edit above below surface change =>
    have edited : (Shape.accelerated (surface.edit change)).Current := surface.current_edit change
    simp only [List.mem_append, List.mem_cons] at current ⊢
    grind
  | prepare above below shape =>
    have prepared := shape.current_prepare
    simp only [List.mem_append, List.mem_cons] at current ⊢
    grind
  | drop above below shape =>
    simp only [List.mem_append, List.mem_cons] at current ⊢
    grind

namespace Scene

variable [Single S]

/-- An operation keeps the trees of a scene current when it adds a shape whose tree is. -/
theorem current_perform {scene : Scene S} {operation : Operation S}
    (current : ∀ renderable ∈ scene.renderables, renderable.shape.Current)
    (added : ∀ renderable, operation = .add renderable → renderable.shape.Current) :
    ∀ renderable ∈ (scene.perform operation).renderables, renderable.shape.Current := by
  intro renderable member
  cases operation with
  | clear => cases member
  | add other =>
    obtain before | here := List.mem_append.mp member
    · exact current renderable before
    · obtain rfl := List.mem_singleton.mp here
      exact added renderable rfl
  | prepare =>
    obtain ⟨original, -, rfl⟩ := List.mem_map.mp member
    exact original.shape.current_prepare
  | render image greatestDepth => exact current renderable (by simpa [perform] using member)
  | _ => exact current renderable member

end Scene

namespace Workshop

/-- Any amount of work. Only shapes in hand are added to the scene. The log has the
operations on the scene. -/
inductive Runs [Single S] : Workshop S → List (Operation S) → Workshop S → Prop
  | done (workshop : Workshop S) : Runs workshop [] workshop
  | craft {shapes crafted : List (Shape S)} {scene : Scene S} {log : List (Operation S)}
      {final : Workshop S} (craft : Craft scene shapes crafted)
      (rest : Runs ⟨crafted, scene⟩ log final) : Runs ⟨shapes, scene⟩ log final
  | perform {shapes : List (Shape S)} {scene : Scene S} {operation : Operation S}
      {log : List (Operation S)} {final : Workshop S}
      (inHand : ∀ renderable, operation = .add renderable → renderable.shape ∈ shapes)
      (rest : Runs ⟨shapes, scene.perform operation⟩ log final) :
      Runs ⟨shapes, scene⟩ (operation :: log) final

namespace Runs

variable [Single S] {before final : Workshop S} {log : List (Operation S)}

theorem scene_eq (runs : Runs before log final) :
    final.scene = log.foldl Scene.perform before.scene := by
  induction runs with
  | done => rfl
  | craft craft rest ih => exact ih
  | perform inHand rest ih => exact ih

/-- **Every tree is that of its mesh**, in hand and in the scene. -/
theorem current (runs : Runs before log final)
    (shapes : ∀ shape ∈ before.shapes, shape.Current)
    (scene : ∀ renderable ∈ before.scene.renderables, renderable.shape.Current) :
    (∀ shape ∈ final.shapes, shape.Current) ∧
      ∀ renderable ∈ final.scene.renderables, renderable.shape.Current := by
  induction runs with
  | done => exact ⟨shapes, scene⟩
  | craft craft rest ih => exact ih (craft.current shapes scene) scene
  | perform inHand rest ih =>
    refine ih shapes (Scene.current_perform scene fun renderable isAdd => ?_)
    exact shapes _ (inHand renderable isAdd)

end Runs

/-- **No query meets a stale tree, and in a prepared scene none misses one.** After
any work that starts with nothing: a tree is always the one built of the present
vertices and faces of its mesh; while the scene is prepared, every accelerated mesh in
it has that tree; and the number that is the answer when a renderable is added keeps
denoting a renderable with the same surface and material until all are removed. -/
theorem trees_current [Single S] {log : List (Operation S)} {workshop : Workshop S}
    (runs : Runs ⟨[], .empty⟩ log workshop) :
    (∀ (surface : AcceleratedMesh S) (tree : Bvh S), surface.tree = some tree →
      (.accelerated surface ∈ workshop.shapes ∨
        ∃ material, ⟨.accelerated surface, material⟩ ∈ workshop.scene.renderables) →
      tree = .build surface.mesh.positions surface.mesh.faces) ∧
    (workshop.scene.prepared = true → ∀ (surface : AcceleratedMesh S) (material : Material S),
      ⟨.accelerated surface, material⟩ ∈ workshop.scene.renderables →
      surface.tree = some (.build surface.mesh.positions surface.mesh.faces)) ∧
    ∀ earlier renderable later, log = earlier ++ .add renderable :: later → .clear ∉ later →
      ∃ present,
        workshop.scene.renderables[((Scene.after earlier).add renderable).2]? = some present ∧
        present.shape.bare = renderable.shape.bare ∧ present.material = renderable.material := by
  have isAfter : workshop.scene = Scene.after log := runs.scene_eq
  obtain ⟨inHand, inScene⟩ := runs.current (by simp) (by simp [Scene.empty])
  refine ⟨?_, ?_, ?_⟩
  · rintro surface tree present (held | ⟨material, member⟩)
    · exact inHand _ held tree present
    · exact inScene _ member tree present
  · intro prepared surface material member
    rw [isAfter] at prepared member
    have ready := Scene.ready_of_prepared prepared _ member
    have same : surface.buildTree = surface := Shape.accelerated.inj ready
    exact (congrArg AcceleratedMesh.tree same).symm
  · rintro earlier renderable later rfl kept
    rw [isAfter]
    exact Scene.exists_matches_after earlier renderable kept

/-- A prepared mesh is added, edited in hand, and added once more. -/
theorem trees_current_edited :
    let surface : AcceleratedMesh Float := .ofMesh (.ofParts #[0, 0, 0] #[] #[⟨0, 1, 2⟩])
    let twoSided (mesh : Mesh Float) := mesh.addFace ⟨2, 1, 0⟩
    let edited := surface.buildTree.edit twoSided
    let log : List (Operation Float) := [.add ⟨.accelerated surface.buildTree, .standard⟩,
      .add ⟨.accelerated edited, .standard⟩, .prepare]
    ∃ workshop, Runs ⟨[], .empty⟩ log workshop ∧ workshop.scene.prepared = true ∧
      ⟨.accelerated edited.buildTree, .standard⟩ ∈ workshop.scene.renderables ∧
      edited.buildTree.tree = some (.build edited.mesh.positions edited.mesh.faces) ∧
      ∃ present, workshop.scene.renderables[0]? = some present ∧
        present.shape.bare = .accelerated surface ∧ present.material = .standard := by
  intro surface twoSided edited log
  let first : Renderable Float := ⟨.accelerated surface.buildTree, .standard⟩
  let second : Renderable Float := ⟨.accelerated edited, .standard⟩
  have runs : Runs ⟨[], .empty⟩ log
      ⟨[.accelerated edited], (Scene.empty.addAll [first, second]).prepare⟩ := by
    refine .craft (.make [] (.accelerated surface)) (.craft (.prepare [] [] _) ?_)
    refine .perform ?_ (.craft (.edit [] [] surface.buildTree twoSided) (.perform ?_ ?_))
    · rintro _ ⟨⟩
      exact List.mem_singleton_self _
    · rintro _ ⟨⟩
      exact List.mem_singleton_self _
    · exact .perform (by simp) (.done _)
  obtain ⟨-, complete, denotes⟩ := trees_current runs
  have member : (⟨.accelerated edited.buildTree, .standard⟩ : Renderable Float) ∈
      (Scene.empty.addAll [first, second]).prepare.renderables := by
    simp [Scene.prepare, Scene.addAll, Scene.add, Scene.empty, second, Shape.prepare]
  refine ⟨_, runs, rfl, member, complete rfl _ _ member, ?_⟩
  exact denotes [] first [.add second, .prepare] rfl (by simp)

end Workshop

end RayTracer
