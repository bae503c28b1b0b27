import RayTracer.Proofs.Box.Smallest
import RayTracer.Proofs.Mesh.Editing

/-!
# Texture coordinates of meshes that are put together

A mesh has no texture coordinates until they are given for a vertex. From then on it has
them for every vertex: the vertices before get zero, and so does every later vertex for which
none are given. So what a mesh has depends only on what was given for its vertices
(`Mesh.Textured`), whatever the order in which vertices with and without texture coordinates
are added. One addition keeps this (`Mesh.Textured.perform`), and so does any number of them.

Additions leave what is there as it is, and the box of the mesh stays the smallest around
its vertices (`Mesh.textured_extend`).
-/

set_option autoImplicit false

namespace RayTracer

variable {S : Type}

namespace Mesh

/-! ## What is given for vertices -/

/-- The vertex that an addition brings. -/
def Edit.position? : Edit S → Option (Vec3 S)
  | .vertex position _ | .vertexWithUvw position _ _ => some position
  | .face _ => none

/-- The texture coordinates that are given for the vertex an addition brings. -/
def Edit.uvw? : Edit S → Option (Vec3 S)
  | .vertexWithUvw _ _ uvw => some uvw
  | .vertex _ _ | .face _ => none

/-- Whether texture coordinates are given for the vertex an addition brings, if it brings
one, and which. -/
def Edit.texture? (edit : Edit S) : Option (Option (Vec3 S)) :=
  edit.position?.map fun _ => edit.uvw?

theorem Edit.texture?_eq_some_iff {edit : Edit S} {texture : Option (Vec3 S)} :
    edit.texture? = some texture ↔
      ∃ position, edit.position? = some position ∧ edit.uvw? = texture := by
  rw [texture?, Option.map_eq_some_iff]

theorem Edit.texture?_of_uvw? {edit : Edit S} {uvw : Vec3 S} (given : edit.uvw? = some uvw) :
    edit.texture? = some (some uvw) := by
  cases edit with
  | vertex position normal => cases given
  | vertexWithUvw position normal uvw => exact congrArg some given
  | face corners => cases given

/-- What is given for the vertices of a mesh that additions to some parts lead to: nothing
for the vertices of the parts. -/
def textureHistory (count : Nat) (edits : List (Edit S)) : List (Option (Vec3 S)) :=
  List.replicate count none ++ edits.filterMap Edit.texture?

theorem eq_none_of_mem_textureHistory {count : Nat} {edits : List (Edit S)}
    (noneGiven : ∀ edit ∈ edits, edit.uvw? = none) :
    ∀ uvw ∈ textureHistory count edits, uvw = none := by
  intro uvw member
  rcases List.mem_append.mp member with part | added
  · exact List.eq_of_mem_replicate part
  · obtain ⟨edit, made, brought⟩ := List.mem_filterMap.mp added
    obtain ⟨-, -, rfl⟩ := Edit.texture?_eq_some_iff.mp brought
    exact noneGiven edit made

theorem exists_mem_textureHistory (count : Nat) {edits : List (Edit S)}
    (someGiven : ∃ edit ∈ edits, edit.uvw? ≠ none) :
    ∃ uvw, some uvw ∈ textureHistory count edits := by
  obtain ⟨edit, made, given⟩ := someGiven
  obtain ⟨uvw, given⟩ := Option.ne_none_iff_exists'.mp given
  exact ⟨uvw, List.mem_append_right _
    (List.mem_filterMap.mpr ⟨edit, made, Edit.texture?_of_uvw? given⟩)⟩

theorem textureHistory_append (count : Nat) (before after : List (Edit S)) :
    textureHistory count (before ++ after) =
      textureHistory count before ++ after.filterMap Edit.texture? := by
  rw [textureHistory, List.filterMap_append, ← List.append_assoc]
  rfl

variable [Scalar S]

/-! ## Texture coordinates in line with vertices -/

/-- The texture coordinates of vertices for which some are given, and some are not: none at
all when none are given, and otherwise zero where they are missing. -/
def settled (given : List (Option (Vec3 S))) : List (Vec3 S) :=
  if given.any Option.isSome then given.map (·.getD 0) else []

theorem settled_cases (given : List (Option (Vec3 S))) :
    (∀ uvw ∈ given, uvw = none) ∧ settled given = [] ∨
      (∃ uvw, some uvw ∈ given) ∧ settled given = given.map (·.getD 0) := by
  by_cases someGiven : given.any Option.isSome
  · obtain ⟨uvw, member, isSome⟩ := List.any_eq_true.mp someGiven
    obtain ⟨uvw, rfl⟩ := Option.isSome_iff_exists.mp isSome
    exact .inr ⟨⟨uvw, member⟩, if_pos someGiven⟩
  · refine .inl ⟨?_, if_neg someGiven⟩
    simpa using someGiven

theorem settled_of_none {given : List (Option (Vec3 S))} (noneGiven : ∀ uvw ∈ given, uvw = none) :
    settled given = [] := by
  rcases settled_cases given with ⟨-, settled⟩ | ⟨⟨uvw, member⟩, -⟩
  · exact settled
  · cases noneGiven _ member

theorem settled_of_mem {given : List (Option (Vec3 S))} {uvw : Vec3 S}
    (isGiven : some uvw ∈ given) : settled given = given.map (·.getD 0) := by
  rcases settled_cases given with ⟨noneGiven, -⟩ | ⟨-, settled⟩
  · cases noneGiven _ isGiven
  · exact settled

/-- Texture coordinates that are settled stay so when more vertices come. -/
theorem settled_prefix (given more : List (Option (Vec3 S))) :
    settled given <+: settled (given ++ more) := by
  rcases settled_cases given with ⟨-, settled⟩ | ⟨⟨uvw, member⟩, settled⟩
  · rw [settled]
    exact List.nil_prefix
  · rw [settled, settled_of_mem (List.mem_append_left more member), List.map_append]
    exact List.prefix_append _ _

/-- A mesh has the texture coordinates given for its vertices. -/
structure Textured (mesh : Mesh S) (given : List (Option (Vec3 S))) : Prop where
  length_eq : given.length = mesh.positions.size
  uvws_eq : mesh.uvws.toList = settled given

theorem textured_ofParts (positions normals : Array (Vec3 S)) (faces : Array Face) :
    (ofParts positions normals faces).Textured (List.replicate positions.size none) where
  length_eq := List.length_replicate
  uvws_eq := (settled_of_none fun _ member => List.eq_of_mem_replicate member).symm

variable {mesh : Mesh S} {given : List (Option (Vec3 S))}

/-- A vertex without texture coordinates gets zero when other vertices have them. -/
theorem Textured.addVertex (textured : mesh.Textured given) (position normal : Vec3 S) :
    (mesh.addVertex position normal).1.Textured (given ++ [none]) where
  length_eq := by simp [Mesh.addVertex, pushVertex, textured.length_eq]
  uvws_eq := by
    have uvws := textured.uvws_eq
    rcases settled_cases given with ⟨noneGiven, settled⟩ | ⟨⟨uvw, member⟩, settled⟩
    · have stillNone : ∀ uvw ∈ given ++ [none], uvw = none := by
        intro uvw member
        rcases List.mem_append.mp member with earlier | last
        · exact noneGiven uvw earlier
        · exact List.mem_singleton.mp last
      have noUvws : mesh.uvws = #[] := by rwa [settled, Array.toList_eq_nil_iff] at uvws
      rw [settled_of_none stillNone]
      simp [Mesh.addVertex, pushVertex, noUvws]
    · have someUvws : mesh.uvws ≠ #[] := by
        intro noUvws
        rw [settled, noUvws] at uvws
        simp [List.ne_nil_of_mem member] at uvws
      rw [settled_of_mem (List.mem_append_left [none] member), List.map_append, ← settled, ← uvws]
      simp [Mesh.addVertex, pushVertex, someUvws]

/-- The vertices before one with texture coordinates get zero if they have none. -/
theorem Textured.toList_aligned (textured : mesh.Textured given) :
    (mesh.uvws.take mesh.positions.size ++
      Array.replicate (mesh.positions.size - mesh.uvws.size) 0).toList = given.map (·.getD 0) := by
  have uvws := textured.uvws_eq
  rw [← textured.length_eq]
  rcases settled_cases given with ⟨noneGiven, settled⟩ | ⟨-, settled⟩
  · have zeros : given.map (·.getD 0) = List.replicate given.length (0 : Vec3 S) := by
      rw [List.eq_replicate_iff]
      simpa using fun uvw member => by simp [noneGiven uvw member]
    rw [settled, Array.toList_eq_nil_iff] at uvws
    simp [uvws, zeros]
  · have sameSize : mesh.uvws.size = given.length := by
      rw [← Array.length_toList, uvws, settled, List.length_map]
    rw [← sameSize, Nat.sub_self, ← settled, ← uvws]
    simp

theorem Textured.addVertexWithUvw (textured : mesh.Textured given) (position normal uvw : Vec3 S) :
    (mesh.addVertexWithUvw position normal uvw).1.Textured (given ++ [some uvw]) where
  length_eq := by simp [Mesh.addVertexWithUvw, pushVertex, textured.length_eq]
  uvws_eq := by
    have isGiven : some uvw ∈ given ++ [some uvw] := by simp
    rw [settled_of_mem isGiven, List.map_append, ← textured.toList_aligned]
    simp [Mesh.addVertexWithUvw, pushVertex]

/-- **One addition keeps the texture coordinates of a mesh in line with its vertices.** -/
theorem Textured.perform (textured : mesh.Textured given) (edit : Edit S) :
    (edit.perform mesh).Textured (given ++ edit.texture?.toList) := by
  cases edit with
  | vertex position normal => exact textured.addVertex position normal
  | vertexWithUvw position normal uvw => exact textured.addVertexWithUvw position normal uvw
  | face corners =>
    have same : given ++ (Edit.texture? (.face corners : Edit S)).toList = given :=
      List.append_nil given
    rw [same]
    exact ⟨textured.length_eq, textured.uvws_eq⟩

/-- **Additions keep the texture coordinates of a mesh in line with its vertices.** -/
theorem Textured.extend (textured : mesh.Textured given) (edits : List (Edit S)) :
    (mesh.extend edits).Textured (given ++ edits.filterMap Edit.texture?) := by
  induction edits generalizing mesh given with
  | nil =>
    rw [List.filterMap_nil, List.append_nil]
    exact textured
  | cons edit rest ih =>
    rw [List.filterMap_eq_flatMap_toList, List.flatMap_cons, ← List.filterMap_eq_flatMap_toList,
      ← List.append_assoc]
    exact ih (textured.perform edit)

/-- Once texture coordinates are given for a vertex, every vertex has what was given for it, or
zero, at its index. -/
theorem Textured.getElem?_uvws (textured : mesh.Textured given) {uvw : Vec3 S}
    (isGiven : some uvw ∈ given) (index : Nat) :
    mesh.uvws[index]? = given[index]?.map (·.getD 0) := by
  rw [← Array.getElem?_toList, textured.uvws_eq, settled_of_mem isGiven, List.getElem?_map]

/-! ## Vertices that stay -/

theorem positions_perform (edit : Edit S) (mesh : Mesh S) :
    (edit.perform mesh).positions.toList = mesh.positions.toList ++ edit.position?.toList := by
  cases edit with
  | vertex position normal => exact Array.toList_push
  | vertexWithUvw position normal uvw => exact Array.toList_push
  | face corners => exact (List.append_nil _).symm

/-- **The new vertices follow those of the parts.** -/
theorem positions_extend (mesh : Mesh S) (edits : List (Edit S)) :
    (mesh.extend edits).positions.toList =
      mesh.positions.toList ++ edits.filterMap Edit.position? :=
  toList_extend (fun mesh => mesh.positions.toList) Edit.position? positions_perform mesh edits

theorem nextVertex_le_extend (mesh : Mesh S) (before after : List (Edit S)) :
    (mesh.extend before).nextVertex ≤ (mesh.extend (before ++ after)).positions.size := by
  have inOrder : mesh.extend (before ++ after) = (mesh.extend before).extend after :=
    List.foldl_append
  rw [inOrder, ← Array.length_toList, positions_extend, List.length_append, Array.length_toList]
  exact Nat.le_add_right _ _

/-- A vertex that is added gets the next index, and keeps what was there as it is. -/
theorem getElem?_positions_perform {edit : Edit S} {position : Vec3 S}
    (brought : edit.position? = some position) (mesh : Mesh S) :
    (edit.perform mesh).positions[mesh.nextVertex]? = some position ∧
      (edit.perform mesh).nextVertex = mesh.nextVertex + 1 := by
  cases edit with
  | vertex position normal =>
    obtain rfl := Option.some.inj brought
    exact ⟨Array.getElem?_push_size, Array.size_push _⟩
  | vertexWithUvw position normal uvw =>
    obtain rfl := Option.some.inj brought
    exact ⟨Array.getElem?_push_size, Array.size_push _⟩
  | face corners => cases brought

theorem pushVertex_answer (mesh : Mesh S) (position normal : Vec3 S) :
    (mesh.pushVertex position normal).2 = mesh.nextVertex % UInt32.size := by
  simp [pushVertex, nextVertex]

/-- The answer to an addition is the index of the vertex that it brings, if that is a number of
32 bits. -/
theorem answer?_eq {edit : Edit S} {position : Vec3 S} (brought : edit.position? = some position)
    {mesh : Mesh S} (few : mesh.nextVertex < 2 ^ 32) :
    edit.answer? mesh = some mesh.nextVertex := by
  have inRange : mesh.nextVertex % UInt32.size = mesh.nextVertex := Nat.mod_eq_of_lt few
  cases edit with
  | vertex position normal => exact congrArg some ((pushVertex_answer ..).trans inRange)
  | vertexWithUvw position normal uvw =>
    exact congrArg some ((pushVertex_answer ..).trans inRange)
  | face corners => cases brought

theorem Textured.extends_uvws (textured : mesh.Textured given) (edit : Edit S) :
    mesh.uvws.toList <+: (edit.perform mesh).uvws.toList := by
  rw [textured.uvws_eq, (textured.perform edit).uvws_eq]
  exact settled_prefix given _

/-- **Texture coordinates and the box stay in line with the vertices.**

From any parts, any additions lead to a mesh without texture coordinates when none were
given for a vertex. Otherwise every vertex has them: zero for the vertices of the parts, and
for a new vertex what was given for it, or zero. Every vertex that is added gets the next
index, which is the answer as long as it is a number of 32 bits, and no addition changes a
vertex or texture coordinates that are there. The box is the smallest around all vertices when
their coordinates are numbers. -/
theorem textured_extend [LinearScalar S] (positions normals : Array (Vec3 S)) (faces : Array Face)
    (edits : List (Edit S)) :
    let parts := ofParts positions normals faces
    let mesh := parts.extend edits
    mesh.positions.toList = positions.toList ++ edits.filterMap Edit.position? ∧
      ((∀ edit ∈ edits, edit.uvw? = none) → mesh.uvws = #[]) ∧
      ((∃ edit ∈ edits, edit.uvw? ≠ none) →
        mesh.uvws.size = mesh.positions.size ∧
        (∀ index < positions.size, mesh.uvws[index]? = some 0) ∧
        ∀ before edit after position, edits = before ++ edit :: after →
          edit.position? = some position →
            mesh.uvws[(parts.extend before).nextVertex]? = some (edit.uvw?.getD 0)) ∧
      (∀ before edit after, edits = before ++ edit :: after →
        let earlier := parts.extend before
        let later := edit.perform earlier
        earlier.positions.toList <+: later.positions.toList ∧
          earlier.uvws.toList <+: later.uvws.toList ∧
          ∀ position, edit.position? = some position →
            later.positions[earlier.nextVertex]? = some position ∧
              later.nextVertex = earlier.nextVertex + 1 ∧
              (mesh.positions.size < 2 ^ 32 → earlier.nextVertex < 2 ^ 32 ∧
                edit.answer? earlier = some earlier.nextVertex)) ∧
      ((∀ position ∈ mesh.positions, position.IsDefined) →
        mesh.bounds.IsSmallest mesh.positions.toList) := by
  intro parts mesh
  have textured (made : List (Edit S)) :
      (parts.extend made).Textured (textureHistory positions.size made) :=
    (textured_ofParts positions normals faces).extend made
  refine ⟨positions_extend parts edits, fun noneGiven => ?_, fun someGiven => ?_, ?_, ?_⟩
  · rw [← Array.toList_eq_nil_iff, (textured edits).uvws_eq]
    exact settled_of_none (eq_none_of_mem_textureHistory noneGiven)
  · obtain ⟨uvw, isGiven⟩ := exists_mem_textureHistory positions.size someGiven
    refine ⟨?_, ?_, ?_⟩
    · rw [← (textured edits).length_eq, ← Array.length_toList, (textured edits).uvws_eq,
        settled_of_mem isGiven, List.length_map]
    · intro index isPart
      rw [(textured edits).getElem?_uvws isGiven, textureHistory,
        List.getElem?_append_left (by rwa [List.length_replicate]),
        List.getElem?_replicate_of_lt isPart]
      rfl
    · rintro before edit after position rfl brought
      have texture : edit.texture? = some edit.uvw? :=
        Edit.texture?_eq_some_iff.mpr ⟨position, brought, rfl⟩
      rw [(textured (before ++ edit :: after)).getElem?_uvws isGiven, textureHistory_append,
        List.filterMap_cons_some texture, nextVertex, ← (textured before).length_eq,
        List.getElem?_append_right le_rfl, Nat.sub_self]
      rfl
  · rintro before edit after rfl earlier later
    refine ⟨?_, (textured before).extends_uvws edit, ?_⟩
    · rw [positions_perform]
      exact List.prefix_append _ _
    · intro position brought
      obtain ⟨placed, next⟩ := getElem?_positions_perform brought earlier
      refine ⟨placed, next, fun few => ?_⟩
      have inRange := (nextVertex_le_extend parts before (edit :: after)).trans_lt few
      exact ⟨inRange, answer?_eq brought inRange⟩
  · intro defined
    have bounded : mesh.Bounded := (bounded_ofParts positions normals faces).extend edits
    rw [bounded]
    exact Box.isSmallest_ofPoints fun position member =>
      defined position (Array.mem_toList_iff.mp member)

/-- A vertex without texture coordinates, one with them that lies infinitely far away, a face,
and one more vertex without texture coordinates. -/
def mixedEdits : List (Edit Float) :=
  [.vertex ⟨1, 0, 0⟩ ⟨0, 0, 1⟩, .vertexWithUvw ⟨0, Scalar.infinity, 0⟩ ⟨0, 0, 1⟩ ⟨1, 1, 0⟩,
    .face ⟨0, 1, 2⟩, .vertex ⟨1, 1, 0⟩ ⟨0, 0, 1⟩]

/-- The additions made to a single vertex. -/
def mixedMesh : Mesh Float := (ofParts #[⟨0, 0, 0⟩] #[] #[]).extend mixedEdits

/-- The one vertex with texture coordinates gives zero to the vertices before and after it,
and the box reaches as far as that vertex. -/
theorem textured_extend_mixedMesh :
    mixedMesh.uvws.size = 4 ∧ mixedMesh.uvws[0]? = some 0 ∧
      mixedMesh.uvws[2]? = some ⟨1, 1, 0⟩ ∧ mixedMesh.uvws[3]? = some 0 ∧
      mixedMesh.bounds.IsSmallest mixedMesh.positions.toList := by
  obtain ⟨-, -, ofSome, -, smallest⟩ := textured_extend #[⟨0, 0, 0⟩] #[] #[] mixedEdits
  obtain ⟨sameSize, ofParts, added⟩ := ofSome ⟨_, .tail _ (.head _), nofun⟩
  have defined : ∀ position ∈ mixedMesh.positions.toList, position.IsDefined := by
    intro position member axis
    have positions : mixedMesh.positions.toList =
        [⟨0, 0, 0⟩, ⟨1, 0, 0⟩, ⟨0, Scalar.infinity, 0⟩, ⟨1, 1, 0⟩] := rfl
    rw [positions] at member
    simp only [List.mem_cons, List.not_mem_nil, or_false] at member
    rcases member with rfl | rfl | rfl | rfl <;> cases axis <;> rfl
  exact ⟨sameSize, ofParts 0 Nat.one_pos, added [_] _ _ _ rfl rfl, added [_, _, _] _ _ _ rfl rfl,
    smallest fun position member => defined position member.val⟩

end Mesh

end RayTracer
