import RayTracer.Obj.Model
import RayTracer.Proofs.Ingest.Faults
import RayTracer.Proofs.Shape.FlatNormal

/-!
# Smooth normals

The smooth normals of a model are worked out face by face: the area vector of every face is
added to the normals of its three vertices, and the sums are normalised at the end. Seen from
a vertex, this is one sum over all faces (`Obj.areaSum`), to which every face contributes its
area vector as often as the vertex is one of its corners. So the order of the faces does not
matter, nor does the corner at which a face begins, and faces that are all turned over have
the opposite normals.

There is a normal for every vertex, whatever the faces are. So a model without normals passes
all checks on its buffers, and only an index that is out of range keeps it out of a scene
(`Obj.smoothNormals_gather`).
-/

set_option autoImplicit false

namespace RayTracer

open Exact

/-! ## Sums of real vectors -/

namespace Vec3

/-- The sum of real vectors. -/
noncomputable def sum (vectors : List (Vec3 ℝ)) : Vec3 ℝ :=
  ⟨(vectors.map Vec3.x).sum, (vectors.map Vec3.y).sum, (vectors.map Vec3.z).sum⟩

theorem sum_cons (vector : Vec3 ℝ) (rest : List (Vec3 ℝ)) :
    sum (vector :: rest) = plus vector (sum rest) := by
  simp only [sum, List.map_cons, List.sum_cons]
  rfl

theorem sum_perm {vectors others : List (Vec3 ℝ)} (same : vectors.Perm others) :
    sum vectors = sum others := by
  simp only [sum, (same.map _).sum_eq]

theorem sum_map_times (factor : ℝ) (vectors : List (Vec3 ℝ)) :
    sum (vectors.map (times factor)) = times factor (sum vectors) := by
  induction vectors with
  | nil => simp [sum, times, map]
  | cons vector rest ih =>
    rw [List.map_cons, sum_cons, sum_cons, ih]
    simp only [plus, zipWith, times, map, mul_add]

theorem plus_assoc (first second third : Vec3 ℝ) :
    plus (plus first second) third = plus first (plus second third) := by
  simp only [plus, zipWith, add_assoc]

theorem plus_zero (vector : Vec3 ℝ) : plus vector ⟨0, 0, 0⟩ = vector := by
  simp only [plus, zipWith, add_zero]

theorem zero_plus (vector : Vec3 ℝ) : plus ⟨0, 0, 0⟩ vector = vector := by
  simp only [plus, zipWith, zero_add]

/-! ## Normalised vectors -/

/-- The vector of length one in the direction of a real vector, and zero for zero. -/
noncomputable def normalised (vector : Vec3 ℝ) : Vec3 ℝ :=
  if vector = ⟨0, 0, 0⟩ then ⟨0, 0, 0⟩ else times vector.length⁻¹ vector

theorem length_eq_zero_iff {vector : Vec3 ℝ} : vector.length = 0 ↔ vector = ⟨0, 0, 0⟩ := by
  rw [length, Real.sqrt_eq_zero (inner_self_nonneg vector), Vec3.ext_iff]
  constructor
  · intro isZero
    simp only [inner] at isZero
    refine ⟨?_, ?_, ?_⟩ <;> nlinarith
  · rintro ⟨isZeroX, isZeroY, isZeroZ⟩
    simp [inner, isZeroX, isZeroY, isZeroZ]

theorem length_nonneg (vector : Vec3 ℝ) : 0 ≤ vector.length := Real.sqrt_nonneg _

/-- Without a tolerance for lengths, only the zero vector has no direction. -/
theorem unitOrZero_ofReal (vector : Vec3 ℝ) :
    (ofReal vector).unitOrZero = ofReal vector.normalised := by
  rw [unitOrZero, norm_ofReal, one_eq_real]
  by_cases isZero : vector = ⟨0, 0, 0⟩
  · have noInverse : (real 1 / real vector.length : Exact) = infinity := by
      rw [length_eq_zero_iff.mpr isZero]
      exact (if_pos rfl).trans (signedInfinity_of_pos one_pos)
    rw [noInverse, normalised, if_pos isZero, ofReal_zero]
    exact if_neg fun finite => finite.2
  · have positive : 0 < vector.length :=
      lt_of_le_of_ne vector.length_nonneg (mt (fun same => length_eq_zero_iff.mp same.symm) isZero)
    have inverse : (real 1 / real vector.length : Exact) = real vector.length⁻¹ := by
      rw [real_div_real positive.ne', one_div]
    rw [inverse, normalised, if_neg isZero, zero_eq_real]
    exact if_pos ⟨real_lt_real.mpr (inv_pos.mpr positive), trivial⟩

theorem normalised_neg (vector : Vec3 ℝ) :
    (times (-1) vector).normalised = times (-1) vector.normalised := by
  have sameLength : (times (-1) vector).length = vector.length := by
    rw [length_times, abs_neg, abs_one, one_mul]
  have sameZero : times (-1) vector = ⟨0, 0, 0⟩ ↔ vector = ⟨0, 0, 0⟩ := by
    rw [← length_eq_zero_iff, sameLength, length_eq_zero_iff]
  rw [normalised, normalised, sameLength]
  simp only [sameZero]
  split
  · simp [times, map]
  · simp only [times, map, mul_left_comm]

end Vec3

/-! ## Triangles that begin at another corner or are turned over -/

namespace Corners

/-- The corners of a triangle, beginning with the second one. -/
def rotated {α : Type} (corners : Corners α) : Corners α := ⟨corners.b, corners.c, corners.a⟩

/-- The corners of a triangle in the opposite order. -/
def reversed {α : Type} (corners : Corners α) : Corners α := ⟨corners.c, corners.b, corners.a⟩

theorem pick_rotated {α : Type} (places : Corners Nat) (values : List α) :
    places.rotated.pick values = (places.pick values).map rotated := by
  simp only [pick, rotated]
  cases values[places.a]? <;> cases values[places.b]? <;> cases values[places.c]? <;> rfl

theorem pick_reversed {α : Type} (places : Corners Nat) (values : List α) :
    places.reversed.pick values = (places.pick values).map reversed := by
  simp only [pick, reversed]
  cases values[places.a]? <;> cases values[places.b]? <;> cases values[places.c]? <;> rfl

theorem across_rotated (corners : Corners (Vec3 ℝ)) : corners.rotated.across = corners.across := by
  simp only [across, rotated, Vec3.outer, Vec3.minus, Vec3.zipWith, Vec3.mk.injEq]
  refine ⟨?_, ?_, ?_⟩ <;> ring

theorem across_reversed (corners : Corners (Vec3 ℝ)) :
    corners.reversed.across = Vec3.times (-1) corners.across := by
  simp only [across, reversed, Vec3.outer, Vec3.minus, Vec3.zipWith, Vec3.times, Vec3.map,
    Vec3.mk.injEq]
  refine ⟨?_, ?_, ?_⟩ <;> ring

theorem toList_rotated_perm {α : Type} (corners : Corners α) :
    corners.rotated.toList.Perm corners.toList :=
  List.perm_append_singleton corners.a [corners.b, corners.c]

theorem toList_reversed_perm {α : Type} (corners : Corners α) :
    corners.reversed.toList.Perm corners.toList :=
  corners.toList.reverse_perm

end Corners

theorem Mesh.gather_toArray_eq_ok_iff {α : Type} {values : List α} {face : Face}
    {corners : Corners α} :
    gather values.toArray face = .ok corners ↔ face.pick values = some corners := by
  rw [gather_eq_ok_iff, Corners.pick_eq_some_iff]
  simp only [List.getElem?_toArray]

theorem triples_map {α β : Type} (function : α → β) (values : List α) :
    triples (values.map function) = (triples values).map (Corners.map function) := by
  refine List.ext_getElem? fun number => ?_
  rw [List.getElem?_map, getElem?_triples, getElem?_triples, Corners.pick_map]

namespace Obj

/-! ## What faces add to the normal of a vertex -/

/-- What a face adds to the normal of a vertex: its area vector, as often as the vertex is one
of its corners. A face with a vertex that does not exist adds nothing. -/
noncomputable def faceShare (vertices : List (Vec3 ℝ)) (vertex : Nat) (face : Face) : Vec3 ℝ :=
  match face.pick vertices with
  | some corners => .times (face.toList.count vertex) corners.across
  | none => ⟨0, 0, 0⟩

/-- The sum of what all faces add to the normal of a vertex. -/
noncomputable def areaSum (vertices : List (Vec3 ℝ)) (faces : List Face) (vertex : Nat) : Vec3 ℝ :=
  .sum (faces.map (faceShare vertices vertex))

section Shares

variable (vertices : List (Vec3 ℝ)) (vertex : Nat)

theorem faceShare_rotated (face : Face) :
    faceShare vertices vertex face.rotated = faceShare vertices vertex face := by
  rw [faceShare, faceShare, face.pick_rotated, face.toList_rotated_perm.count_eq]
  cases face.pick vertices with
  | none => rfl
  | some corners => simp only [Option.map_some, corners.across_rotated]

theorem faceShare_iterate_rotated (steps : Nat) (face : Face) :
    faceShare vertices vertex (Corners.rotated^[steps] face) = faceShare vertices vertex face := by
  induction steps generalizing face with
  | zero => rfl
  | succ steps ih => rw [Function.iterate_succ_apply, ih, faceShare_rotated]

theorem faceShare_reversed (face : Face) :
    faceShare vertices vertex face.reversed = .times (-1) (faceShare vertices vertex face) := by
  rw [faceShare, faceShare, face.pick_reversed, face.toList_reversed_perm.count_eq]
  cases face.pick vertices with
  | none => simp [Vec3.times, Vec3.map]
  | some corners =>
    simp only [Option.map_some, corners.across_reversed]
    simp only [Vec3.times, Vec3.map, mul_left_comm]

theorem areaSum_perm {faces others : List Face} (same : faces.Perm others) :
    areaSum vertices faces vertex = areaSum vertices others vertex :=
  Vec3.sum_perm (same.map _)

theorem areaSum_rotated {faces others : List Face}
    (same : List.Forall₂ (fun face other => ∃ steps, other = Corners.rotated^[steps] face)
      faces others) :
    areaSum vertices others vertex = areaSum vertices faces vertex := by
  rw [areaSum, areaSum]
  congr 1
  induction same with
  | nil => rfl
  | cons isRotated _ ih =>
    obtain ⟨steps, rfl⟩ := isRotated
    rw [List.map_cons, List.map_cons, ih, faceShare_iterate_rotated]

theorem areaSum_reversed (faces : List Face) :
    areaSum vertices (faces.map Corners.reversed) vertex =
      .times (-1) (areaSum vertices faces vertex) := by
  have shares : (faces.map Corners.reversed).map (faceShare vertices vertex) =
      (faces.map (faceShare vertices vertex)).map (Vec3.times (-1)) := by
    simp only [List.map_map]
    exact List.map_congr_left fun face _ => faceShare_reversed vertices vertex face
  rw [areaSum, shares, Vec3.sum_map_times, areaSum]

end Shares

/-! ## From additions to sums -/

section Additions

variable {vertices : List (Vec3 ℝ)} {sums : Array (Vec3 Exact)} {vertex : Nat} {sum : Vec3 ℝ}

/-- A vector that is added at some indices counts as often as an index occurs among them. -/
theorem getElem?_foldl_modify (held : sums[vertex]? = some (.ofReal sum)) (indices : List Nat)
    (area : Vec3 ℝ) :
    (indices.foldl (fun sums index => sums.modify index (· + .ofReal area)) sums)[vertex]? =
      some (.ofReal (.plus sum (.times (indices.count vertex) area))) := by
  induction indices generalizing sums sum with
  | nil => simpa [Vec3.times, Vec3.map, Vec3.plus_zero] using held
  | cons index rest ih =>
    rw [List.foldl_cons]
    by_cases here : index = vertex
    · subst here
      have added : (sums.modify index (· + .ofReal area))[index]? =
          some (.ofReal (sum.plus area)) := by
        rw [Array.getElem?_modify, if_pos rfl, held, Option.map_some, Vec3.ofReal_add_ofReal]
      have once : Vec3.times ((index :: rest).count index : ℕ) area =
          Vec3.plus area (.times (rest.count index) area) := by
        simp only [List.count_cons_self, Vec3.times, Vec3.map, Vec3.plus, Vec3.zipWith,
          Nat.cast_add, Nat.cast_one, add_mul, one_mul, add_comm]
      rw [ih added, once, Vec3.plus_assoc]
    · have kept : (sums.modify index (· + .ofReal area))[vertex]? = some (.ofReal sum) := by
        rw [Array.getElem?_modify, if_neg here, held]
      rw [ih kept, List.count_cons_of_ne here]

/-- **A face adds its share to the normal of every vertex.** -/
theorem getElem?_addFaceNormal (held : sums[vertex]? = some (.ofReal sum)) (face : Face) :
    (addFaceNormal (vertices.map Vec3.ofReal).toArray sums face)[vertex]? =
      some (.ofReal (.plus sum (faceShare vertices vertex face))) := by
  have picked : face.pick (vertices.map Vec3.ofReal) = (face.pick vertices).map Corners.ofReal :=
    Corners.pick_map Vec3.ofReal face vertices
  rw [faceShare]
  unfold addFaceNormal
  split
  · rename_i corners gathered
    rw [Mesh.gather_toArray_eq_ok_iff, picked] at gathered
    obtain ⟨corners, isPicked, rfl⟩ := Option.map_eq_some_iff.mp gathered
    rw [isPicked, corners.areaVector_ofReal]
    exact getElem?_foldl_modify held face.toList corners.across
  · rename_i refused
    cases isPicked : face.pick vertices with
    | none => simpa only [Vec3.plus_zero] using held
    | some corners =>
      rw [isPicked] at picked
      rw [Mesh.gather_toArray_eq_ok_iff.mpr picked] at refused
      cases refused

/-- **All faces add their shares, one after the other.** -/
theorem getElem?_foldl_addFaceNormal (held : sums[vertex]? = some (.ofReal sum))
    (faces : List Face) :
    (faces.foldl (addFaceNormal (vertices.map Vec3.ofReal).toArray) sums)[vertex]? =
      some (.ofReal (.plus sum (areaSum vertices faces vertex))) := by
  induction faces generalizing sums sum with
  | nil => simpa [areaSum, Vec3.sum, Vec3.plus_zero] using held
  | cons face rest ih =>
    rw [List.foldl_cons, ih (getElem?_addFaceNormal held face), Vec3.plus_assoc, areaSum, areaSum,
      List.map_cons, Vec3.sum_cons]

end Additions

/-! ## One normal for every vertex -/

section Sizes

variable {S : Type} [Scalar S]

theorem size_addFaceNormal (vertices normals : Array (Vec3 S)) (face : Face) :
    (addFaceNormal vertices normals face).size = normals.size := by
  unfold addFaceNormal
  split
  · simp [Corners.toList]
  · rfl

theorem size_foldl_addFaceNormal (vertices normals : Array (Vec3 S)) (faces : List Face) :
    (faces.foldl (addFaceNormal vertices) normals).size = normals.size := by
  induction faces generalizing normals with
  | nil => rfl
  | cons face rest ih => rw [List.foldl_cons, ih, size_addFaceNormal]

omit [Scalar S] in
theorem length_flatMap_toList (vectors : List (Vec3 S)) :
    (vectors.flatMap Vec3.toList).length = 3 * vectors.length := by
  induction vectors with
  | nil => rfl
  | cons vector rest ih =>
    rw [List.flatMap_cons, List.length_append, ih, List.length_cons, Nat.mul_succ, Nat.add_comm]
    rfl

theorem length_smoothNormals (positions : List S) (indices : List Nat) :
    (smoothNormals positions indices).length = 3 * (positions.length / 3) := by
  rw [smoothNormals, length_flatMap_toList, List.length_map, Array.length_toList,
    size_foldl_addFaceNormal, Array.size_replicate, List.size_toArray,
    AttributeBuffer.length_vectors]

end Sizes

/-- The vectors in a flat list of numbers. -/
def vectorsOf (positions : List ℝ) : List (Vec3 ℝ) := AttributeBuffer.vectors ⟨3, positions⟩

theorem vectors_map_real (positions : List ℝ) :
    AttributeBuffer.vectors ⟨3, positions.map real⟩ = (vectorsOf positions).map Vec3.ofReal := by
  rw [AttributeBuffer.vectors, triples_map, vectorsOf, AttributeBuffer.vectors, List.map_map,
    List.map_map]
  rfl

/-- **The smooth normals are the normalised sums of what the faces add.** -/
theorem smoothNormals_eq (positions : List ℝ) (indices : List Nat) :
    smoothNormals (positions.map real) indices =
      (List.range (positions.length / 3)).flatMap fun vertex =>
        (Vec3.ofReal
          (areaSum (vectorsOf positions) (triples indices) vertex).normalised).toList := by
  rw [smoothNormals, vectors_map_real]
  set vertices := vectorsOf positions with isVertices
  set sums := (triples indices).foldl _ _ with isSums
  have count : vertices.length = positions.length / 3 := AttributeBuffer.length_vectors _
  have size : sums.size = vertices.length := by
    rw [isSums, size_foldl_addFaceNormal, Array.size_replicate, List.size_toArray, List.length_map]
  have isSum : sums.toList =
      (List.range vertices.length).map fun vertex =>
        .ofReal (areaSum vertices (triples indices) vertex) := by
    refine List.ext_getElem? fun vertex => ?_
    rw [Array.getElem?_toList, List.getElem?_map]
    by_cases present : vertex < vertices.length
    · have start : (Array.replicate vertices.length (0 : Vec3 Exact))[vertex]? =
          some (.ofReal ⟨0, 0, 0⟩) := by
        rw [Array.getElem?_replicate, if_pos present, Vec3.ofReal_zero]
      rw [isSums, List.size_toArray, List.length_map, getElem?_foldl_addFaceNormal start,
        Vec3.zero_plus, List.getElem?_range present]
      rfl
    · rw [List.getElem?_eq_none (by simpa using present), Array.getElem?_eq_none (by omega)]
      rfl
  rw [isSum, List.map_map, List.flatMap_map, count]
  simp only [Function.comp_apply, Vec3.unitOrZero_ofReal]

/-! ## Models without normals -/

section Models

variable {S : Type} [Scalar S] [Single S]

omit [Scalar S] in
theorem length_widen (vectors : Array (Vec3 Float32)) :
    (widen vectors : List S).length = 3 * vectors.size := by
  rw [widen, ← List.flatMap_map, length_flatMap_toList, List.length_map, Array.length_toList]

variable {model : Model}

/-- A model without normals passes the checks on positions and normals. -/
theorem Model.complete_toInput (noNormals : model.normals = #[]) :
    (model.toInput : MeshInput S).Complete ⟨3, widen model.positions⟩
      ⟨3, smoothNormals (widen model.positions) model.indices.toList⟩ where
  positions_eq := rfl
  positions_components := rfl
  normals_eq := by rw [toInput, noNormals]; rfl
  normals_components := rfl
  count_eq := by
    rw [AttributeBuffer.count, AttributeBuffer.count, length_smoothNormals]
    exact Nat.mul_div_cancel_left _ three_pos

/-- A model without normals is refused for its first index that refers to no vertex, if there
is one in a complete triple. -/
theorem Model.ingest_toInput_eq_error_iff (noNormals : model.normals = #[]) {error : IngestError} :
    (model.toInput : MeshInput S).ingest = .error error ↔
      ∃ index, ((triples model.indices.toList).flatMap Corners.toList).find?
          (model.positions.size ≤ ·) = some index ∧
        error = .indexOutOfRange index model.positions.size := by
  have complete : (model.toInput : MeshInput S).Complete _ _ := complete_toInput noNormals
  have count : (AttributeBuffer.mk 3 (widen model.positions : List S)).count =
      model.positions.size := by
    rw [AttributeBuffer.count, length_widen]
    exact Nat.mul_div_cancel_left _ three_pos
  have faces : (model.toInput : MeshInput S).faces = triples model.indices.toList :=
    List.append_nil _
  rw [complete.ingest_eq_error_iff, count, faces]

theorem Model.refused_iff (noNormals : model.normals = #[]) :
    (∃ error, (model.toInput : MeshInput S).ingest = .error error) ↔
      ∃ face ∈ triples model.indices.toList, ∃ index ∈ face.toList,
        model.positions.size ≤ index := by
  simp only [ingest_toInput_eq_error_iff noNormals]
  constructor
  · rintro ⟨error, index, found, -⟩
    obtain ⟨face, member, isCorner⟩ := List.mem_flatMap.mp (List.mem_of_find?_eq_some found)
    have beyond := List.find?_some found
    exact ⟨face, member, index, isCorner, of_decide_eq_true beyond⟩
  · rintro ⟨face, member, index, isCorner, beyond⟩
    have stray : (((triples model.indices.toList).flatMap Corners.toList).find?
        (model.positions.size ≤ ·)).isSome :=
      List.find?_isSome.mpr
        ⟨index, List.mem_flatMap.mpr ⟨face, member, isCorner⟩, decide_eq_true beyond⟩
    obtain ⟨first, found⟩ := Option.isSome_iff_exists.mp stray
    exact ⟨_, first, found, rfl⟩

end Models

/-- **Smooth normals are gathered around the vertices.**

There is one for every complete vertex: the normalised sum of the area vectors of the faces
around it, each as often as the vertex occurs in the face. The order of the faces does not
matter, nor does the corner at which each of them begins, and the normals turn round when
all faces are reversed. A model without normals can only be refused for its first index that
refers to no vertex, and it is refused exactly when a complete triple has such an index. -/
theorem smoothNormals_gather (positions : List ℝ) (indices : List Nat) :
    (smoothNormals (positions.map real) indices =
      (List.range (positions.length / 3)).flatMap fun vertex =>
        (Vec3.ofReal
          (areaSum (vectorsOf positions) (triples indices) vertex).normalised).toList) ∧
      (∀ others, (triples indices).Perm (triples others) →
        smoothNormals (positions.map real) others = smoothNormals (positions.map real) indices) ∧
      (∀ others,
        List.Forall₂ (fun face other => ∃ steps, other = Corners.rotated^[steps] face)
            (triples indices) (triples others) →
          smoothNormals (positions.map real) others = smoothNormals (positions.map real) indices) ∧
      (∀ others, triples others = (triples indices).map Corners.reversed →
        smoothNormals (positions.map real) others =
          (smoothNormals (positions.map real) indices).map (- ·)) ∧
      ∀ (S : Type) [Scalar S] [Single S] (model : Model), model.normals = #[] →
        (∀ error, (model.toInput : MeshInput S).ingest = .error error ↔
          ∃ index, ((triples model.indices.toList).flatMap Corners.toList).find?
              (model.positions.size ≤ ·) = some index ∧
            error = .indexOutOfRange index model.positions.size) ∧
        ((∃ error, (model.toInput : MeshInput S).ingest = .error error) ↔
          ∃ face ∈ triples model.indices.toList, ∃ index ∈ face.toList,
            model.positions.size ≤ index) := by
  refine ⟨smoothNormals_eq positions indices, ?_, ?_, ?_, ?_⟩
  · intro others same
    rw [smoothNormals_eq, smoothNormals_eq]
    simp only [areaSum_perm _ _ same]
  · intro others same
    rw [smoothNormals_eq, smoothNormals_eq]
    simp only [areaSum_rotated _ _ same]
  · intro others reversed
    have toList_neg (vector : Vec3 Exact) : (-vector).toList = vector.toList.map (- ·) := rfl
    rw [smoothNormals_eq, smoothNormals_eq, reversed, List.map_flatMap]
    simp only [areaSum_reversed, Vec3.normalised_neg, ← Vec3.neg_ofReal, toList_neg]
  · intro S _ _ model noNormals
    exact ⟨fun error => Model.ingest_toInput_eq_error_iff noNormals, Model.refused_iff noNormals⟩

/-- The corners of a square have the normal across it, whether they belong to one face or two. -/
example : smoothNormals ([0, 0, 0, 1, 0, 0, 1, 1, 0, 0, 1, 0] : List Float) [0, 1, 2, 0, 2, 3] =
    [0, 0, 1, 0, 0, 1, 0, 0, 1, 0, 0, 1] := by decide +kernel

end Obj

end RayTracer
