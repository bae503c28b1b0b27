import RayTracer.Proofs.Ingest.Assembly
import RayTracer.Proofs.Ingest.Entries

/-!
# What a mesh from outside is refused for

The checks on a mesh from outside are made in order, and the first that fails is
reported: first the buffers of positions and normals (`MeshInput.BufferFault`), then the
entries of the index buffers, one buffer after the other. So the index that is reported
is the first entry that refers to no vertex (`MeshInput.ingest_eq_error_iff`).

Values beyond the last complete vertex, index buffers of points and lines, and indices
that form no triangle have no influence on the outcome, whether it is a mesh or an error
(`MeshInput.ingest_trimmed`).
-/

set_option autoImplicit false

namespace RayTracer

/-- A check fails with its own error, or lets another one fail. -/
theorem unless_eq_error_iff {Error Value : Type} {condition : Prop} [Decidable condition]
    {error other : Error} {further : Except Error Value} :
    (if condition then (do .error error; further) else further) = .error other ↔
      condition ∧ other = error ∨ ¬condition ∧ further = .error other := by
  split <;> simp [*, bind, Except.bind, eq_comm]

theorem bind_pure_eq_error_iff {Error α β : Type} {first : Except Error α} {result : α → β}
    {error : Error} :
    (first >>= fun value => pure (result value)) = .error error ↔ first = .error error := by
  cases first <;> simp [bind, Except.bind, pure, Except.pure]

/-! ## Attribute buffers -/

namespace AttributeBuffer

variable {S : Type}

/-- The vector of a vertex, when the buffer holds all of it. -/
def vectorAt (buffer : AttributeBuffer S) (vertex : Nat) : Option (Vec3 S) :=
  (Corners.pick ⟨3 * vertex, 3 * vertex + 1, 3 * vertex + 2⟩ buffer.values).map
    fun triple => ⟨triple.a, triple.b, triple.c⟩

theorem getElem?_vectors (buffer : AttributeBuffer S) (vertex : Nat) :
    buffer.vectors[vertex]? = buffer.vectorAt vertex := by
  rw [vectors, List.getElem?_map, getElem?_triples, vectorAt]

/-- A buffer without the values beyond the last complete vertex. -/
def trimmed (buffer : AttributeBuffer S) : AttributeBuffer S :=
  { buffer with values := buffer.values.take (buffer.components * buffer.count) }

theorem count_trimmed (buffer : AttributeBuffer S) : buffer.trimmed.count = buffer.count := by
  have atMost : buffer.components * buffer.count ≤ buffer.values.length := Nat.mul_div_le _ _
  rw [count, trimmed, List.length_take, Nat.min_eq_left atMost]
  obtain none | some := Nat.eq_zero_or_pos buffer.components
  · simp [count, none]
  · exact Nat.mul_div_cancel_left _ some

theorem vectors_trimmed {buffer : AttributeBuffer S} (three : buffer.components = 3) :
    buffer.trimmed.vectors = buffer.vectors := by
  have complete : buffer.trimmed.values = completePart buffer.values := by
    rw [trimmed, count, three, completePart]
  rw [vectors, complete, triples_completePart, vectors]

end AttributeBuffer

namespace MeshInput

variable {S : Type} {input : MeshInput S}

/-! ## Faults of the buffers -/

/-- What is wrong with the positions and normals of a mesh, first things first. -/
inductive BufferFault (input : MeshInput S) : IngestError → Prop where
  | missingPositions (absent : input.positions = none) : BufferFault input .missingPositions
  | positionComponents {positions : AttributeBuffer S} (given : input.positions = some positions)
      (wrong : positions.components ≠ 3) :
      BufferFault input (.positionComponents positions.components)
  | missingNormals {positions : AttributeBuffer S} (given : input.positions = some positions)
      (right : positions.components = 3) (absent : input.normals = none) :
      BufferFault input .missingNormals
  | normalComponents {positions normals : AttributeBuffer S}
      (given : input.positions = some positions) (right : positions.components = 3)
      (alsoGiven : input.normals = some normals) (wrong : normals.components ≠ 3) :
      BufferFault input (.normalComponents normals.components)
  | vertexNormalMismatch {positions normals : AttributeBuffer S}
      (given : input.positions = some positions) (right : positions.components = 3)
      (alsoGiven : input.normals = some normals) (alsoRight : normals.components = 3)
      (differ : normals.count ≠ positions.count) :
      BufferFault input (.vertexNormalMismatch positions.count normals.count)

theorem vertexData_eq_error_iff {error : IngestError} :
    input.vertexData = .error error ↔ input.BufferFault error := by
  constructor
  · intro refused
    unfold vertexData at refused
    split at refused
    · rename_i positions given
      obtain ⟨wrong, rfl⟩ | ⟨right, refused⟩ := unless_eq_error_iff.mp refused
      · exact .positionComponents given wrong
      · split at refused
        · rename_i normals alsoGiven
          obtain ⟨wrong, rfl⟩ | ⟨alsoRight, refused⟩ := unless_eq_error_iff.mp refused
          · exact .normalComponents given (not_not.mp right) alsoGiven wrong
          · obtain ⟨differ, rfl⟩ | ⟨-, refused⟩ := unless_eq_error_iff.mp refused
            · exact .vertexNormalMismatch given (not_not.mp right) alsoGiven (not_not.mp alsoRight)
                differ
            · cases refused
        · rename_i absent
          cases refused
          exact .missingNormals given (not_not.mp right)
            (Option.eq_none_iff_forall_ne_some.mpr absent)
    · rename_i absent
      cases refused
      exact .missingPositions (Option.eq_none_iff_forall_ne_some.mpr absent)
  · intro fault
    cases fault with
    | missingPositions absent => simp only [vertexData, absent]
    | positionComponents given wrong =>
      simp only [vertexData, given]
      exact unless_eq_error_iff.mpr (.inl ⟨wrong, rfl⟩)
    | missingNormals given right absent =>
      simp only [vertexData, given, absent]
      exact unless_eq_error_iff.mpr (.inr ⟨not_not.mpr right, rfl⟩)
    | normalComponents given right alsoGiven wrong =>
      simp only [vertexData, given, alsoGiven]
      refine unless_eq_error_iff.mpr (.inr ⟨not_not.mpr right, ?_⟩)
      exact unless_eq_error_iff.mpr (.inl ⟨wrong, rfl⟩)
    | vertexNormalMismatch given right alsoGiven alsoRight differ =>
      simp only [vertexData, given, alsoGiven]
      refine unless_eq_error_iff.mpr (.inr ⟨not_not.mpr right, ?_⟩)
      refine unless_eq_error_iff.mpr (.inr ⟨not_not.mpr alsoRight, ?_⟩)
      exact unless_eq_error_iff.mpr (.inl ⟨differ, rfl⟩)

/-! ## Stray indices -/

/-- The indices of a mesh that belong to a triangle, in order. -/
def entries (input : MeshInput S) : List Nat := input.indexBuffers.flatMap IndexBuffer.entries

/-- The first stray corner of the faces is the first stray entry. -/
theorem find?_flatMap_faces (input : MeshInput S) (stray : Nat → Bool) :
    (input.faces.flatMap Corners.toList).find? stray = input.entries.find? stray := by
  rw [faces, entries, List.flatMap_assoc]
  induction input.indexBuffers with
  | nil => rfl
  | cons buffer rest ih =>
    rw [List.flatMap_cons, List.flatMap_cons, List.find?_append, List.find?_append,
      buffer.find?_flatMap_triangles, ih]

/-- All corners of the faces are in range when all entries are. -/
theorem forall_mem_faces_iff {count : Nat} :
    (∀ face ∈ input.faces, ∀ index ∈ face.toList, index < count) ↔
      ∀ index ∈ input.entries, index < count := by
  have same := input.find?_flatMap_faces (count ≤ ·)
  have none : (input.faces.flatMap Corners.toList).find? (count ≤ ·) = none ↔
      input.entries.find? (count ≤ ·) = none := by rw [same]
  simpa [List.find?_eq_none] using none

theorem addFace_eq_error_iff {count : Nat} {mesh : Mesh S} {face : Face} {error : IngestError} :
    addFace count mesh face = .error error ↔
      ∃ index, face.toList.find? (count ≤ ·) = some index ∧
        error = .indexOutOfRange index count := by
  unfold addFace
  split
  · rename_i index found
    simp [found, eq_comm]
  · rename_i noStray
    simp [noStray]

/-- Adding faces fails at the first index that refers to no vertex. -/
theorem foldlM_addFace_eq_error_iff {count : Nat} {faces : List Face} {mesh : Mesh S}
    {error : IngestError} :
    faces.foldlM (addFace count) mesh = .error error ↔
      ∃ index, (faces.flatMap Corners.toList).find? (count ≤ ·) = some index ∧
        error = .indexOutOfRange index count := by
  induction faces generalizing mesh with
  | nil => simp [pure, Except.pure]
  | cons face rest ih =>
    rw [List.foldlM_cons, List.flatMap_cons, List.find?_append]
    cases found : face.toList.find? (count ≤ ·) with
    | some index =>
      rw [addFace_eq_error_iff.mpr ⟨index, found, rfl⟩]
      simp [bind, Except.bind, eq_comm]
    | none =>
      have added : addFace count mesh face = .ok (mesh.addFace face) := by
        rw [addFace, found]
      rw [added]
      exact ih

/-! ## The outcome -/

/-- A mesh without what belongs to no vertex and to no triangle. -/
def trimmed (input : MeshInput S) : MeshInput S where
  positions := input.positions.map AttributeBuffer.trimmed
  normals := input.normals.map AttributeBuffer.trimmed
  toWorld := input.toWorld
  indexBuffers :=
    (input.indexBuffers.filter fun buffer => buffer.primitive = .triangles).map
      IndexBuffer.trimmed

theorem vertexData_trimmed (input : MeshInput S) : input.trimmed.vertexData = input.vertexData := by
  unfold vertexData trimmed
  cases input.positions with
  | none => rfl
  | some positions =>
    cases input.normals with
    | none => rfl
    | some normals =>
      have components (buffer : AttributeBuffer S) :
        buffer.trimmed.components = buffer.components := rfl
      simp only [Option.map_some, AttributeBuffer.count_trimmed, components]
      split
      · rfl
      · rename_i right
        split
        · rfl
        · rename_i alsoRight
          rw [AttributeBuffer.vectors_trimmed (not_not.mp right),
            AttributeBuffer.vectors_trimmed (not_not.mp alsoRight)]

theorem faces_trimmed (input : MeshInput S) : input.trimmed.faces = input.faces := by
  rw [faces, faces, trimmed]
  dsimp only
  induction input.indexBuffers with
  | nil => rfl
  | cons buffer rest ih =>
    rw [List.filter_cons, List.flatMap_cons]
    split
    · rw [List.map_cons, List.flatMap_cons, buffer.triangles_trimmed, ih]
    · rename_i otherwise
      rw [ih, IndexBuffer.triangles_eq_nil fun same => otherwise (decide_eq_true same),
        List.nil_append]

variable [Scalar S]

theorem ingest_trimmed (input : MeshInput S) : input.trimmed.ingest = input.ingest := by
  rw [ingest, ingest, vertexData_trimmed, faces_trimmed]
  rfl

/-- A mesh whose buffers pass the checks is refused for the first corner of a face that refers
to no vertex. -/
theorem Complete.ingest_eq_error_iff {positions normals : AttributeBuffer S}
    (complete : input.Complete positions normals) {error : IngestError} :
    input.ingest = .error error ↔
      ∃ index, (input.faces.flatMap Corners.toList).find? (positions.count ≤ ·) = some index ∧
        error = .indexOutOfRange index positions.count := by
  unfold ingest
  rw [vertexData_eq_ok_iff.mpr ⟨positions, normals, complete, rfl⟩]
  exact bind_pure_eq_error_iff.trans foldlM_addFace_eq_error_iff

/-- A mesh is refused for a fault of its buffers or for the first index that refers to no
vertex. -/
theorem ingest_eq_error_iff {error : IngestError} :
    input.ingest = .error error ↔ input.BufferFault error ∨
      ∃ positions normals index, input.Complete positions normals ∧
        input.entries.find? (positions.count ≤ ·) = some index ∧
        error = .indexOutOfRange index positions.count := by
  cases checked : input.vertexData with
  | error fault =>
    rw [ingest, checked]
    constructor
    · intro refused
      cases refused
      exact .inl (vertexData_eq_error_iff.mp checked)
    · rintro (refused | ⟨positions, normals, index, complete, -, -⟩)
      · obtain rfl := Except.error.inj (checked.symm.trans (vertexData_eq_error_iff.mpr refused))
        rfl
      · cases checked.symm.trans (vertexData_eq_ok_iff.mpr ⟨positions, normals, complete, rfl⟩)
  | ok data =>
    obtain ⟨positions, normals, complete, rfl⟩ := vertexData_eq_ok_iff.mp checked
    rw [complete.ingest_eq_error_iff, find?_flatMap_faces]
    constructor
    · rintro ⟨index, found, isError⟩
      exact .inr ⟨positions, normals, index, complete, found, isError⟩
    · rintro (refused | ⟨others, otherNormals, index, otherComplete, found, isError⟩)
      · cases checked.symm.trans (vertexData_eq_error_iff.mpr refused)
      · obtain rfl := Option.some.inj (complete.positions_eq.symm.trans otherComplete.positions_eq)
        exact ⟨index, found, isError⟩

/-- A mesh assembled from the complete vertices and the triangles of its buffers: every vertex
in its place, and all triangles of one index buffer after those of the other. -/
structure Assembles (input : MeshInput S) (positions normals : AttributeBuffer S)
    (mesh : Mesh S) : Prop where
  size_positions : mesh.positions.size = positions.count
  size_normals : mesh.normals.size = positions.count
  position (vertex : Nat) : mesh.positions[vertex]? =
    (positions.vectorAt vertex).map input.toWorld.transformPoint
  normal (vertex : Nat) : mesh.normals[vertex]? =
    (normals.vectorAt vertex).map fun normal => (input.toWorld.normalMatrix.apply normal).unit
  uvws : mesh.uvws = #[]
  faces : mesh.faces = (input.indexBuffers.flatMap IndexBuffer.triangles).toArray
  bounds : mesh.bounds = .ofPoints mesh.positions.toList

theorem Complete.assembles {positions normals : AttributeBuffer S}
    (complete : input.Complete positions normals) :
    input.Assembles positions normals (.ofParts (input.worldPositions positions)
      (input.worldNormals normals) input.faces.toArray) := by
  obtain ⟨positionCount, normalCount⟩ := complete.length_vectors
  exact {
    size_positions := by simp [Mesh.ofParts, worldPositions, positionCount]
    size_normals := by simp [Mesh.ofParts, worldNormals, normalCount]
    position := fun vertex => by
      simp [Mesh.ofParts, worldPositions, AttributeBuffer.getElem?_vectors]
    normal := fun vertex => by
      simp [Mesh.ofParts, worldNormals, AttributeBuffer.getElem?_vectors]
    uvws := rfl
    faces := rfl
    bounds := rfl }

/-- **A mesh from outside is accepted exactly when it is valid, and refused for its first fault.**
It is valid when its buffers pass the checks and no entry refers to a vertex beyond the last.
An index is reported when nothing else is wrong: the first entry that does. What is accepted
has every complete vertex and every triangle that the index buffers describe, in order and
without texture coordinates, and nothing besides has any influence. -/
theorem accepts_exactly (input : MeshInput S) :
    (∀ error, input.ingest = .error error ↔ input.BufferFault error ∨
      ∃ positions normals index, input.Complete positions normals ∧
        input.entries.find? (positions.count ≤ ·) = some index ∧
        error = .indexOutOfRange index positions.count) ∧
    ((∃ accelerated, input.ingest = .ok accelerated) ↔
      ∃ positions normals, input.Complete positions normals ∧
        ∀ index ∈ input.entries, index < positions.count) ∧
    (∀ accelerated, input.ingest = .ok accelerated → accelerated.tree = none ∧
      ∃ positions normals, input.Complete positions normals ∧
        input.Assembles positions normals accelerated.mesh) ∧
    (∀ buffer ∈ input.indexBuffers, buffer.primitive = .triangles → ∀ number,
      buffer.triangles[number]? = (buffer.connectivity.places number).pick buffer.indices) ∧
    input.trimmed.ingest = input.ingest := by
  refine ⟨fun error => ingest_eq_error_iff, ?_, ?_,
    fun buffer _ isTriangles => buffer.getElem?_triangles isTriangles, ingest_trimmed input⟩
  · constructor
    · rintro ⟨accelerated, ingested⟩
      obtain ⟨positions, normals, complete, inRange, -⟩ := ingest_eq_ok_iff.mp ingested
      exact ⟨positions, normals, complete, forall_mem_faces_iff.mp inRange⟩
    · rintro ⟨positions, normals, complete, inRange⟩
      exact ⟨_, ingest_eq_ok_iff.mpr
        ⟨positions, normals, complete, forall_mem_faces_iff.mpr inRange, rfl⟩⟩
  · intro accelerated ingested
    obtain ⟨positions, normals, complete, -, rfl⟩ := ingest_eq_ok_iff.mp ingested
    exact ⟨rfl, positions, normals, complete, complete.assembles⟩

end MeshInput

end RayTracer
