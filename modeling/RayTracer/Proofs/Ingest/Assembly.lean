import RayTracer.Ingest.MeshInput
import RayTracer.Proofs.Binary64
import RayTracer.Proofs.Bvh.Partition
import RayTracer.Proofs.Ingest.Entries
import RayTracer.Proofs.Shape.Agreement

/-!
# Assembling a mesh from buffers

A mesh from outside is usable when its positions and normals pass the checks and
no face refers to a vertex beyond the last. The assembled mesh then has all
complete vertices and all faces, in order, and nothing else
(`MeshInput.ingest_eq_ok_iff`). So all its vertex indices are in range and there
is a normal for every vertex, whatever the buffers hold besides.

Once its tree is built, such a mesh answers every query: the candidates of the
tree are triangles of the mesh, and nothing is read that is not there
(`MeshInput.answers_of_ingest`). Of the scalars only transitivity of the order is
needed. Vertices, rays and bounds may be infinite or undefined.
-/

set_option autoImplicit false

namespace RayTracer

/-! ## Buffers -/

theorem AttributeBuffer.length_vectors {S : Type} (buffer : AttributeBuffer S) :
    buffer.vectors.length = buffer.values.length / 3 := by
  rw [vectors, List.length_map, length_triples]

/-! ## The checks -/

/-- A check lets a computation go on exactly when its condition does not hold. -/
theorem unless_eq_ok_iff {Error Value : Type} {condition : Prop} [Decidable condition]
    {error : Error} {further : Except Error Value} {value : Value} :
    (if condition then (do .error error; further) else further) = .ok value ↔
      ¬condition ∧ further = .ok value := by
  split <;> simp [*, bind, Except.bind]

namespace MeshInput

variable {S : Type} {input : MeshInput S}

/-- The positions and normals of a mesh pass the checks. -/
structure Complete (input : MeshInput S) (positions normals : AttributeBuffer S) : Prop where
  positions_eq : input.positions = some positions
  positions_components : positions.components = 3
  normals_eq : input.normals = some normals
  normals_components : normals.components = 3
  count_eq : normals.count = positions.count

theorem vertexData_eq_ok_iff {data : VertexData S} :
    input.vertexData = .ok data ↔ ∃ positions normals, input.Complete positions normals ∧
      data = ⟨positions.vectors, normals.vectors, positions.count⟩ := by
  constructor
  · intro checked
    unfold vertexData at checked
    split at checked
    · rename_i positions isPositions
      obtain ⟨positionComponents, checked⟩ := unless_eq_ok_iff.mp checked
      split at checked
      · rename_i normals isNormals
        obtain ⟨normalComponents, checked⟩ := unless_eq_ok_iff.mp checked
        obtain ⟨sameCount, isData⟩ := unless_eq_ok_iff.mp checked
        exact ⟨positions, normals, ⟨isPositions, not_not.mp positionComponents, isNormals,
          not_not.mp normalComponents, not_not.mp sameCount⟩, (Except.ok.inj isData).symm⟩
      · cases checked
    · cases checked
  · rintro ⟨positions, normals, complete, rfl⟩
    simp only [vertexData, complete.positions_eq, complete.normals_eq, unless_eq_ok_iff]
    exact ⟨not_not.mpr complete.positions_components, not_not.mpr complete.normals_components,
      not_not.mpr complete.count_eq, rfl⟩

/-- The checks leave a position and a normal for every vertex. -/
theorem Complete.length_vectors {positions normals : AttributeBuffer S}
    (complete : input.Complete positions normals) :
    positions.vectors.length = positions.count ∧ normals.vectors.length = positions.count := by
  have countEq := complete.count_eq
  rw [AttributeBuffer.length_vectors, AttributeBuffer.length_vectors]
  rw [AttributeBuffer.count, AttributeBuffer.count, complete.positions_components,
    complete.normals_components] at countEq
  rw [AttributeBuffer.count, complete.positions_components]
  exact ⟨rfl, countEq⟩

/-! ## Faces -/

theorem addFace_eq_ok_iff {count : Nat} {mesh next : Mesh S} {face : Face} :
    addFace count mesh face = .ok next ↔
      (∀ index ∈ face.toList, index < count) ∧ next = mesh.addFace face := by
  unfold addFace
  split
  · rename_i index found
    have stray := List.find?_some found
    have member := List.mem_of_find?_eq_some found
    refine iff_of_false nofun fun ⟨inRange, _⟩ => ?_
    exact (inRange index member).not_ge (of_decide_eq_true stray)
  · rename_i noStray
    have inRange : ∀ index ∈ face.toList, index < count := fun index member =>
      not_le.mp fun stray => List.find?_eq_none.mp noStray index member (decide_eq_true stray)
    rw [Except.ok.injEq, eq_comm, and_iff_right inRange]

/-- Faces are added as long as they refer to vertices that exist. -/
theorem foldlM_addFace_eq_ok_iff {count : Nat} {faces : List Face} {mesh result : Mesh S} :
    faces.foldlM (addFace count) mesh = .ok result ↔
      (∀ face ∈ faces, ∀ index ∈ face.toList, index < count) ∧
        result = { mesh with faces := mesh.faces ++ faces.toArray } := by
  induction faces generalizing mesh with
  | nil => simp [pure, Except.pure, eq_comm]
  | cons face rest ih =>
    rw [List.foldlM_cons]
    constructor
    · intro added
      obtain ⟨next, first, others⟩ := exists_of_bind_eq_ok added
      obtain ⟨inRange, rfl⟩ := addFace_eq_ok_iff.mp first
      obtain ⟨restInRange, rfl⟩ := ih.mp others
      exact ⟨List.forall_mem_cons.mpr ⟨inRange, restInRange⟩, by simp [Mesh.addFace]⟩
    · rintro ⟨inRange, rfl⟩
      obtain ⟨inRange, restInRange⟩ := List.forall_mem_cons.mp inRange
      rw [addFace_eq_ok_iff.mpr ⟨inRange, rfl⟩]
      exact ih.mpr ⟨restInRange, by simp [Mesh.addFace]⟩

/-! ## Vertices -/

variable [Scalar S]

/-- Adding vertices to a mesh without texture coordinates. -/
theorem foldl_addVertex (place turn : Vec3 S → Vec3 S) {positions normals : List (Vec3 S)}
    (sameLength : positions.length = normals.length) {mesh : Mesh S} (noUvws : mesh.uvws = #[]) :
    (positions.zip normals).foldl
        (fun mesh vertex => (mesh.addVertex (place vertex.1) (turn vertex.2)).1) mesh =
      { mesh with
        positions := mesh.positions ++ (positions.map place).toArray
        normals := mesh.normals ++ (normals.map turn).toArray
        bounds := (positions.map place).foldl Box.insert mesh.bounds } := by
  induction positions generalizing normals mesh with
  | nil =>
    obtain rfl := List.length_eq_zero_iff.mp sameLength.symm
    simp
  | cons position rest ih =>
    obtain ⟨normal, otherNormals, rfl⟩ := List.exists_cons_of_length_eq_add_one sameLength.symm
    have added : (mesh.addVertex (place position) (turn normal)).1 =
        { mesh with
          positions := mesh.positions.push (place position)
          normals := mesh.normals.push (turn normal)
          bounds := mesh.bounds.insert (place position) } := by
      simp only [Mesh.addVertex, Mesh.pushVertex, noUvws, Array.isEmpty_empty, if_true]
    rw [List.zip_cons_cons, List.foldl_cons, ih (Nat.succ.inj sameLength) (by rw [added, noUvws]),
      added]
    simp

/-- The positions of the vertices in the world. -/
def worldPositions (input : MeshInput S) (positions : AttributeBuffer S) : Array (Vec3 S) :=
  (positions.vectors.map input.toWorld.transformPoint).toArray

/-- The normals of the vertices in the world. -/
def worldNormals (input : MeshInput S) (normals : AttributeBuffer S) : Array (Vec3 S) :=
  (normals.vectors.map fun normal => (input.toWorld.normalMatrix.apply normal).unit).toArray

theorem Complete.worldVertices_eq {positions normals : AttributeBuffer S}
    (complete : input.Complete positions normals) (count : Nat) :
    input.worldVertices ⟨positions.vectors, normals.vectors, count⟩ =
      .ofParts (input.worldPositions positions) (input.worldNormals normals) #[] := by
  obtain ⟨positionCount, normalCount⟩ := complete.length_vectors
  have sameLength := positionCount.trans normalCount.symm
  rw [worldVertices]
  refine (foldl_addVertex input.toWorld.transformPoint
    (fun normal => (input.toWorld.normalMatrix.apply normal).unit) sameLength rfl).trans ?_
  simp only [Mesh.empty, Mesh.ofParts, Array.empty_append]
  rfl

/-! ## The assembled mesh -/

/-- **A mesh from outside is usable exactly when its buffers pass the checks and its faces
refer to vertices that exist. All vertices and all faces are assembled, in order.** -/
theorem ingest_eq_ok_iff {accelerated : AcceleratedMesh S} :
    input.ingest = .ok accelerated ↔ ∃ positions normals, input.Complete positions normals ∧
      (∀ face ∈ input.faces, ∀ index ∈ face.toList, index < positions.count) ∧
      accelerated = .ofMesh (.ofParts (input.worldPositions positions) (input.worldNormals normals)
        input.faces.toArray) := by
  constructor
  · intro ingested
    obtain ⟨data, checked, ingested⟩ := exists_of_bind_eq_ok ingested
    obtain ⟨mesh, added, ingested⟩ := exists_of_bind_eq_ok ingested
    obtain ⟨positions, normals, complete, rfl⟩ := vertexData_eq_ok_iff.mp checked
    obtain ⟨inRange, rfl⟩ := foldlM_addFace_eq_ok_iff.mp added
    refine ⟨positions, normals, complete, inRange, ?_⟩
    rw [← Except.ok.inj ingested, complete.worldVertices_eq]
    simp [Mesh.ofParts]
  · rintro ⟨positions, normals, complete, inRange, rfl⟩
    have checked := vertexData_eq_ok_iff.mpr ⟨positions, normals, complete, rfl⟩
    have added : input.faces.foldlM (addFace positions.count)
        (.ofParts (input.worldPositions positions) (input.worldNormals normals) #[]) =
          .ok (.ofParts (input.worldPositions positions) (input.worldNormals normals)
            input.faces.toArray) :=
      foldlM_addFace_eq_ok_iff.mpr ⟨inRange, by simp [Mesh.ofParts]⟩
    simp only [ingest, checked, complete.worldVertices_eq, added, bind, Except.bind, pure,
      Except.pure]

/-- The vertex indices of an assembled mesh are in range. -/
theorem indexed_of_ingest {accelerated : AcceleratedMesh S}
    (ingested : input.ingest = .ok accelerated) : accelerated.mesh.Indexed := by
  obtain ⟨positions, normals, complete, inRange, rfl⟩ := ingest_eq_ok_iff.mp ingested
  have sameSize : (input.worldPositions positions).size = positions.count := by
    simp [worldPositions, complete.length_vectors.1]
  intro face member index isCorner
  exact (inRange face (List.mem_toArray.mp member) index isCorner).trans_eq sameSize.symm

/-- An assembled mesh has a normal for every vertex. -/
theorem size_normals_of_ingest {accelerated : AcceleratedMesh S}
    (ingested : input.ingest = .ok accelerated) :
    accelerated.mesh.normals.size = accelerated.mesh.positions.size := by
  obtain ⟨positions, normals, complete, -, rfl⟩ := ingest_eq_ok_iff.mp ingested
  obtain ⟨positionCount, normalCount⟩ := complete.length_vectors
  simp [AcceleratedMesh.ofMesh, Mesh.ofParts, worldPositions, worldNormals, positionCount,
    normalCount]

end MeshInput

/-! ## Queries -/

section Queries

variable {S : Type} [Scalar S]

/-- All queries of an accelerated mesh and of its mesh answer, for every ray and every bound,
and the candidates of the tree are triangles of the mesh. -/
structure AcceleratedMesh.Answers (accelerated : AcceleratedMesh S) : Prop where
  candidates (ray : Ray S) (bound : S) : ∃ found, accelerated.candidates ray bound = .ok found ∧
    ∀ triangle ∈ found, triangle < accelerated.mesh.faces.size
  closest (ray : Ray S) (bound : S) : ∃ found, accelerated.closest ray bound = .ok found
  any (ray : Ray S) (bound : S) : ∃ answer, accelerated.any ray bound = .ok answer
  meshClosest (ray : Ray S) (bound : S) : ∃ found, accelerated.mesh.closest ray bound = .ok found
  meshAny (ray : Ray S) (bound : S) : ∃ answer, accelerated.mesh.any ray bound = .ok answer
  surfaceHit (triangle : Nat) (inRange : triangle < accelerated.mesh.faces.size)
    (hit : TriangleHit S) : ∃ surface, accelerated.mesh.surfaceHit triangle hit = .ok surface

variable [IsTrans S (· < ·)]

/-- Both queries of a well-formed shape answer. -/
theorem Shape.WellFormed.answers {shape : Shape S} (wellFormed : shape.WellFormed) (ray : Ray S)
    (bound : S) :
    (∃ found, shape.closest ray bound = .ok found) ∧
      ∃ answer, shape.any ray bound = .ok answer := by
  obtain ⟨found, nearest, any, -⟩ := Shape.agree wellFormed ray bound
  exact ⟨⟨found, nearest⟩, found.isSome, any⟩

/-- An indexed mesh answers all queries once its tree is built. -/
theorem Mesh.Indexed.answers_buildTree {accelerated : AcceleratedMesh S}
    (indexed : accelerated.mesh.Indexed) : accelerated.buildTree.Answers := by
  have current := accelerated.current_buildTree
  have fast : (Shape.accelerated accelerated.buildTree).WellFormed := ⟨indexed, current⟩
  have slow : (Shape.mesh accelerated.mesh).WellFormed := indexed
  exact {
    candidates := current.exists_candidates
    closest := fun ray bound => (fast.answers ray bound).1
    any := fun ray bound => (fast.answers ray bound).2
    meshClosest := fun ray bound => (slow.answers ray bound).1
    meshAny := fun ray bound => (slow.answers ray bound).2
    surfaceHit := fun triangle inRange hit => by
      obtain ⟨surface, isSurface, -⟩ := Mesh.Indexed.exists_surfaceHit indexed inRange hit
      exact ⟨surface, isSurface⟩ }

namespace MeshInput

/-- **A mesh assembled from buffers answers every query once its tree is built.** Its vertex
indices are in range, it has a normal for every vertex, and the indices of its triangles and
of the nodes of its tree do not grow beyond 32 bits. -/
theorem answers_of_ingest {input : MeshInput S} {accelerated : AcceleratedMesh S}
    (ingested : input.ingest = .ok accelerated) :
    accelerated.buildTree.Answers ∧ accelerated.mesh.Indexed ∧
      accelerated.mesh.normals.size = accelerated.mesh.positions.size ∧
      (accelerated.mesh.faces.size ≤ 2 ^ 31 →
        ∀ tree, accelerated.buildTree.tree = some tree → tree.nodes.size < 2 ^ 32) := by
  have indexed := indexed_of_ingest ingested
  refine ⟨indexed.answers_buildTree, indexed, size_normals_of_ingest ingested, ?_⟩
  rintro few tree isTree
  obtain rfl := Option.some.inj isTree
  have atMost := Bvh.size_nodes_build_le accelerated.mesh.positions accelerated.mesh.faces
  omega

/-- A mesh whose buffers end within a vertex and within a triangle, one of whose values is not
a number and whose matrix has no inverse. -/
def untidy : MeshInput Float where
  positions := some ⟨3, [0, 0, 0, 1, 0, 0, 0 / 0, 1, 0, 5]⟩
  normals := some ⟨3, [0, 0, 1, 0, 0, 1, 0, 0, 1, 7, 7]⟩
  toWorld := ⟨⟨⟨1, 0, 0⟩, 0⟩, ⟨⟨1, 0, 0⟩, 0⟩, ⟨⟨0, 0, 1⟩, 0⟩, ⟨⟨0, 0, 0⟩, 0⟩⟩
  indexBuffers := [⟨.triangles, .strip, [0, 1, 2, 0]⟩, ⟨.lines, .separate, [9, 9]⟩,
    ⟨.triangles, .separate, [2, 1, 0, 9]⟩]

theorem answers_of_ingest_untidy :
    ∃ accelerated, untidy.ingest = .ok accelerated ∧ accelerated.buildTree.Answers := by
  have ingested := ingest_eq_ok_iff.mpr
    ⟨_, _, (⟨rfl, rfl, rfl, rfl, rfl⟩ : untidy.Complete _ _), by decide, rfl⟩
  exact ⟨_, ingested, (answers_of_ingest ingested).1⟩

end MeshInput

end Queries

end RayTracer
