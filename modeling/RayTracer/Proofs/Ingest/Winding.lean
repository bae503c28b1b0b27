import RayTracer.Proofs.Ingest.Entries
import Mathlib.Data.List.Perm.Basic

/-!
# The winding of strips and fans

The triangles of a strip or a fan follow each other: every triangle has the next two indices
of the buffer and one earlier index, which is the one just before them in a strip and the
first in a fan. So there are two triangles less than indices, one more index is one more
triangle, and a triangle shares an edge with the next one.

Triangles that share an edge face the same way when they pass along it in opposite
directions. In a strip this takes the turning over of every other triangle. Which way an edge
is passed is settled for the places of the indices in the buffer (`Connectivity.Joined`),
whatever the indices are, and carried over to the triangles from there
(`IndexBuffer.strips_and_fans`).
-/

set_option autoImplicit false

namespace RayTracer

/-! ## Edges -/

namespace Corners

variable {α : Type}

/-- The edges of a triangle in the direction in which it passes along them. -/
def edges (corners : Corners α) : List (α × α) :=
  [(corners.a, corners.b), (corners.b, corners.c), (corners.c, corners.a)]

/-- Two triangles pass along the edge between two vertices in opposite directions. -/
def Opposed (first second : Corners α) (a b : α) : Prop :=
  (a, b) ∈ first.edges ∧ (b, a) ∈ second.edges ∨ (b, a) ∈ first.edges ∧ (a, b) ∈ second.edges

variable {places : Corners Nat} {values : List α} {corners : Corners α}

/-- Values that are added at the end do not matter to earlier places. -/
theorem pick_append (picked : places.pick values = some corners) (more : List α) :
    places.pick (values ++ more) = some corners := by
  rw [pick_eq_some_iff] at picked ⊢
  obtain ⟨isA, isB, isC⟩ := picked
  have still {place : Nat} {value : α} (isValue : values[place]? = some value) :
      (values ++ more)[place]? = some value := by
    rw [List.getElem?_append_left (List.getElem?_eq_some_iff.mp isValue).1, isValue]
  exact ⟨still isA, still isB, still isC⟩

/-- The values at the places of a triangle are its corners, in the same order. -/
theorem toList_of_pick (picked : places.pick values = some corners) :
    corners.toList.map some = places.toList.map fun place => values[place]? := by
  obtain ⟨isA, isB, isC⟩ := pick_eq_some_iff.mp picked
  simp [toList, isA, isB, isC]

/-- A triangle passes along an edge wherever its places have one. -/
theorem exists_edge_of_pick (picked : places.pick values = some corners) {i j : Nat}
    (isEdge : (i, j) ∈ places.edges) :
    ∃ a b, values[i]? = some a ∧ values[j]? = some b ∧ (a, b) ∈ corners.edges := by
  obtain ⟨isA, isB, isC⟩ := pick_eq_some_iff.mp picked
  simp only [edges, List.mem_cons, List.not_mem_nil, or_false, Prod.mk.injEq] at isEdge
  rcases isEdge with ⟨rfl, rfl⟩ | ⟨rfl, rfl⟩ | ⟨rfl, rfl⟩
  · exact ⟨_, _, isA, isB, by simp [edges]⟩
  · exact ⟨_, _, isB, isC, by simp [edges]⟩
  · exact ⟨_, _, isC, isA, by simp [edges]⟩

/-- A triangle passes along no other edges. -/
theorem exists_places_of_mem_edges (picked : places.pick values = some corners) {a b : α}
    (isEdge : (a, b) ∈ corners.edges) :
    ∃ i j, (i, j) ∈ places.edges ∧ values[i]? = some a ∧ values[j]? = some b := by
  obtain ⟨isA, isB, isC⟩ := pick_eq_some_iff.mp picked
  simp only [edges, List.mem_cons, List.not_mem_nil, or_false, Prod.mk.injEq] at isEdge
  rcases isEdge with ⟨rfl, rfl⟩ | ⟨rfl, rfl⟩ | ⟨rfl, rfl⟩
  · exact ⟨_, _, by simp [edges], isA, isB⟩
  · exact ⟨_, _, by simp [edges], isB, isC⟩
  · exact ⟨_, _, by simp [edges], isC, isA⟩

/-- What is opposed at its places is opposed. -/
theorem Opposed.of_pick {next : Corners Nat} {others : Corners α} {i j : Nat}
    (opposed : places.Opposed next i j) (earlier : places.pick values = some corners)
    (later : next.pick values = some others) :
    ∃ a b, values[i]? = some a ∧ values[j]? = some b ∧ corners.Opposed others a b := by
  rcases opposed with ⟨forth, back⟩ | ⟨back, forth⟩
  · obtain ⟨a, b, isA, isB, here⟩ := exists_edge_of_pick earlier forth
    obtain ⟨b', a', isB', isA', there⟩ := exists_edge_of_pick later back
    obtain rfl := Option.some.inj (isA.symm.trans isA')
    obtain rfl := Option.some.inj (isB.symm.trans isB')
    exact ⟨a, b, isA, isB, .inl ⟨here, there⟩⟩
  · obtain ⟨b, a, isB, isA, here⟩ := exists_edge_of_pick earlier back
    obtain ⟨a', b', isA', isB', there⟩ := exists_edge_of_pick later forth
    obtain rfl := Option.some.inj (isA.symm.trans isA')
    obtain rfl := Option.some.inj (isB.symm.trans isB')
    exact ⟨a, b, isA, isB, .inr ⟨here, there⟩⟩

/-- Where no value occurs twice, an edge belongs to one pair of places. -/
theorem apart_of_pick (distinct : values.Nodup) {next : Corners Nat} {others : Corners α}
    (apart : ∀ edge ∈ places.edges, edge ∉ next.edges)
    (earlier : places.pick values = some corners) (later : next.pick values = some others) :
    ∀ edge ∈ corners.edges, edge ∉ others.edges := by
  have unique {place other : Nat} {value : α} (isValue : values[place]? = some value)
      (alsoValue : values[other]? = some value) : place = other :=
    (List.getElem?_inj (List.getElem?_eq_some_iff.mp isValue).1 distinct).mp
      (isValue.trans alsoValue.symm)
  rintro ⟨a, b⟩ here there
  obtain ⟨i, j, isEdge, isA, isB⟩ := exists_places_of_mem_edges earlier here
  obtain ⟨i', j', isEdge', isA', isB'⟩ := exists_places_of_mem_edges later there
  obtain rfl := unique isA isA'
  obtain rfl := unique isB isB'
  exact apart (i, j) isEdge isEdge'

end Corners

/-! ## Places -/

/-- The places of the triangles of a strip or a fan: the next two, and one more that is given
for every triangle. A triangle passes along the edge that the next one has from it against
the direction of the next one, and along no edge in the same direction. -/
structure Connectivity.Joined (connectivity : Connectivity) (base : Nat → Nat) : Prop where
  perm (number : Nat) :
    (connectivity.places number).toList.Perm [base number, number + 1, number + 2]
  base_le (number : Nat) : base number ≤ number
  opposed (number : Nat) : (connectivity.places number).Opposed
    (connectivity.places (number + 1)) (base (number + 1)) (number + 2)
  apart (number : Nat) : ∀ edge ∈ (connectivity.places number).edges,
    edge ∉ (connectivity.places (number + 1)).edges

/-- Of two neighbouring triangles of a strip one is turned over. -/
theorem Connectivity.places_strip_cases (number : Nat) :
    (places .strip number = ⟨number, number + 1, number + 2⟩ ∧
        places .strip (number + 1) = ⟨number + 2, number + 1, number + 3⟩) ∨
      (places .strip number = ⟨number + 1, number, number + 2⟩ ∧
        places .strip (number + 1) = ⟨number + 1, number + 2, number + 3⟩) := by
  rcases Nat.mod_two_eq_zero_or_one number with even | odd
  · have next : ¬(number + 1) % 2 = 0 := by omega
    exact .inl ⟨if_pos even, if_neg next⟩
  · have next : (number + 1) % 2 = 0 := by omega
    have turned : ¬number % 2 = 0 := by omega
    exact .inr ⟨if_neg turned, if_pos next⟩

theorem Connectivity.joined_strip : Joined .strip id where
  perm number := by
    rcases places_strip_cases number with ⟨same, -⟩ | ⟨turned, -⟩
    · rw [same]
      exact .refl _
    · rw [turned]
      exact .swap _ _ _
  base_le number := Nat.le_refl number
  opposed number := by
    rcases places_strip_cases number with ⟨first, second⟩ | ⟨first, second⟩ <;>
      simp [first, second, Corners.Opposed, Corners.edges]
  apart number := by
    rcases places_strip_cases number with ⟨first, second⟩ | ⟨first, second⟩ <;>
      simp [first, second, Corners.edges]

theorem Connectivity.joined_fan : Joined .fan fun _ => 0 where
  perm number := .refl _
  base_le number := Nat.zero_le number
  opposed number := by simp [places, Corners.Opposed, Corners.edges]
  apart number := by simp [places, Corners.edges]

/-! ## Triangles -/

namespace IndexBuffer

/-- The triangles of a buffer follow each other: a triangle has the next two indices and the
one at a given place, and it faces the same way as the next one. -/
structure Joins (buffer : IndexBuffer) (base : Nat → Nat) : Prop where
  length_eq : buffer.triangles.length = buffer.indices.length - 2
  corners {number : Nat} {triangle : Corners Nat}
    (reported : buffer.triangles[number]? = some triangle) :
    ∃ a b c, buffer.indices[base number]? = some a ∧ buffer.indices[number + 1]? = some b ∧
      buffer.indices[number + 2]? = some c ∧ triangle.toList.Perm [a, b, c]
  opposed {number : Nat} {first second : Corners Nat}
    (earlier : buffer.triangles[number]? = some first)
    (later : buffer.triangles[number + 1]? = some second) :
    ∃ a b, buffer.indices[base (number + 1)]? = some a ∧
      buffer.indices[number + 2]? = some b ∧ first.Opposed second a b
  apart (distinct : buffer.indices.Nodup) {number : Nat} {first second : Corners Nat}
    (earlier : buffer.triangles[number]? = some first)
    (later : buffer.triangles[number + 1]? = some second) :
    ∀ edge ∈ first.edges, edge ∉ second.edges
  concat (enough : 2 ≤ buffer.indices.length) (index : Nat) : ∃ triangle,
    { buffer with indices := buffer.indices ++ [index] }.triangles = buffer.triangles ++ [triangle]

variable {connectivity : Connectivity} {base : Nat → Nat} {indices : List Nat} {number : Nat}

/-- A strip or a fan has a triangle for every index after the first two. -/
theorem exists_triangle_iff (joined : connectivity.Joined base) :
    (∃ triangle, (⟨.triangles, connectivity, indices⟩ : IndexBuffer).triangles[number]? =
      some triangle) ↔ number + 2 < indices.length := by
  rw [getElem?_triangles rfl, Corners.exists_pick_iff]
  have below := joined.base_le number
  constructor
  · intro inRange
    exact inRange (number + 2) ((joined.perm number).mem_iff.mpr (by simp))
  · intro inRange place isPlace
    have cases := (joined.perm number).mem_iff.mp isPlace
    simp only [List.mem_cons, List.not_mem_nil, or_false] at cases
    dsimp only
    omega

theorem length_triangles (joined : connectivity.Joined base) (indices : List Nat) :
    (⟨.triangles, connectivity, indices⟩ : IndexBuffer).triangles.length = indices.length - 2 := by
  have present (number : Nat) :
      number < (⟨.triangles, connectivity, indices⟩ : IndexBuffer).triangles.length ↔
        number + 2 < indices.length := by
    rw [← exists_triangle_iff joined]
    exact ⟨fun inside => ⟨_, List.getElem?_eq_getElem inside⟩,
      fun ⟨_, reported⟩ => (List.getElem?_eq_some_iff.mp reported).1⟩
  have atEnd := present (indices.length - 2)
  have beyond := present (⟨.triangles, connectivity, indices⟩ : IndexBuffer).triangles.length
  omega

/-- More indices leave the triangles as they are. -/
theorem triangles_prefix (connectivity : Connectivity) (indices more : List Nat) :
    (⟨.triangles, connectivity, indices⟩ : IndexBuffer).triangles <+:
      (⟨.triangles, connectivity, indices ++ more⟩ : IndexBuffer).triangles := by
  rw [List.prefix_iff_getElem?]
  intro number present
  have reported := List.getElem?_eq_getElem present
  rw [getElem?_triangles rfl] at reported ⊢
  exact Corners.pick_append reported more

/-- **The triangles of strips and fans follow each other as their places do.** -/
theorem joins (joined : connectivity.Joined base) (indices : List Nat) :
    (⟨.triangles, connectivity, indices⟩ : IndexBuffer).Joins base where
  length_eq := length_triangles joined indices
  corners {number triangle} reported := by
    have inRange := (exists_triangle_iff joined).mp ⟨triangle, reported⟩
    have below := joined.base_le number
    rw [getElem?_triangles rfl] at reported
    have perm := (joined.perm number).map fun place => indices[place]?
    rw [← Corners.toList_of_pick reported] at perm
    have present (place : Nat) (inside : place < indices.length) :
        indices[place]? = some indices[place] := List.getElem?_eq_getElem inside
    refine ⟨_, _, _, present (base number) (by omega), present (number + 1) (by omega),
      present (number + 2) inRange, ?_⟩
    rw [← List.map_perm_map_iff (fun _ _ => Option.some.inj)]
    simpa only [List.map_cons, List.map_nil, ← present] using perm
  opposed {number first second} earlier later := by
    rw [getElem?_triangles rfl] at earlier later
    exact (joined.opposed number).of_pick earlier later
  apart distinct {number first second} earlier later := by
    rw [getElem?_triangles rfl] at earlier later
    exact Corners.apart_of_pick distinct (joined.apart number) earlier later
  concat enough index := by
    obtain ⟨rest, isRest⟩ := triangles_prefix connectivity indices [index]
    have one : rest.length = 1 := by
      have sum := congrArg List.length isRest
      rw [List.length_append, length_triangles joined, length_triangles joined,
        List.length_append, List.length_singleton] at sum
      dsimp only at enough
      omega
    obtain ⟨triangle, rfl⟩ := List.length_eq_one_iff.mp one
    exact ⟨triangle, isRest.symm⟩

/-- **Strips and fans are enumerated completely, and all their triangles face the same way.**
A triangle of a strip has three indices in a row, and one of a fan has the first index and two
in a row. -/
theorem strips_and_fans (indices : List Nat) :
    (⟨.triangles, .strip, indices⟩ : IndexBuffer).Joins id ∧
      (⟨.triangles, .fan, indices⟩ : IndexBuffer).Joins fun _ => 0 :=
  ⟨joins Connectivity.joined_strip indices, joins Connectivity.joined_fan indices⟩

example : (⟨.triangles, .strip, [0, 1, 2, 3, 4]⟩ : IndexBuffer).triangles =
    [⟨0, 1, 2⟩, ⟨2, 1, 3⟩, ⟨2, 3, 4⟩] := by
  decide

end IndexBuffer

end RayTracer
