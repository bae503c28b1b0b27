import RayTracer.Ingest.Buffer

/-!
# The indices that form triangles

An index buffer describes triangles by the places of their corners in the buffer
(`IndexBuffer.getElem?_triangles`): three in a row for separate triangles, three
overlapping ones for a strip, and the first place with two neighbouring ones for a fan.

The entries of a buffer are the indices that belong to a triangle, in the order of the
buffer. A strip and a fan repeat indices, and every other triangle of a strip names its
corners in another order. All the same, the first index that fails a test is the same
among the corners of the triangles and among the entries
(`IndexBuffer.find?_flatMap_triangles`): after the first triangle every triangle
brings one new index, and names it last.

Points, lines and indices left over at the end form no triangle and are not entries.
-/

set_option autoImplicit false

namespace RayTracer

variable {α : Type}

/-- The values of a list at three places, when it has all of them. -/
def Corners.pick (places : Corners Nat) (values : List α) : Option (Corners α) := do
  let a ← values[places.a]?
  let b ← values[places.b]?
  let c ← values[places.c]?
  return ⟨a, b, c⟩

namespace Corners

variable {places : Corners Nat} {values : List α} {corners : Corners α}

theorem pick_eq_some_iff :
    places.pick values = some corners ↔
      values[places.a]? = some corners.a ∧ values[places.b]? = some corners.b ∧
        values[places.c]? = some corners.c := by
  unfold pick
  cases values[places.a]? <;> cases values[places.b]? <;> cases values[places.c]? <;>
    simp [Corners.ext_iff]

/-- A list has values at three places when it reaches beyond each of them. -/
theorem exists_pick_iff :
    (∃ corners, places.pick values = some corners) ↔
      ∀ place ∈ places.toList, place < values.length := by
  simp only [pick_eq_some_iff, toList, List.forall_mem_cons, List.not_mem_nil, false_imp_iff,
    implies_true, and_true]
  constructor
  · rintro ⟨corners, isA, isB, isC⟩
    exact ⟨(List.getElem?_eq_some_iff.mp isA).1, (List.getElem?_eq_some_iff.mp isB).1,
      (List.getElem?_eq_some_iff.mp isC).1⟩
  · rintro ⟨ltA, ltB, ltC⟩
    exact ⟨⟨values[places.a], values[places.b], values[places.c]⟩,
      List.getElem?_eq_getElem ltA, List.getElem?_eq_getElem ltB, List.getElem?_eq_getElem ltC⟩

/-- Places have values in a list that is computed from another one when they have some there. -/
theorem pick_map {β : Type} (function : α → β) (places : Corners Nat) (values : List α) :
    places.pick (values.map function) = (places.pick values).map (map function) := by
  unfold pick
  simp only [List.getElem?_map]
  cases values[places.a]? <;> cases values[places.b]? <;> cases values[places.c]? <;> rfl

end Corners

/-! ## Triples -/

/-- A list up to the end of its last complete triple. -/
def completePart (values : List α) : List α := values.take (3 * (values.length / 3))

theorem completePart_cons (a b c : α) (rest : List α) :
    completePart (a :: b :: c :: rest) = a :: b :: c :: completePart rest := by
  have size : 3 * ((a :: b :: c :: rest).length / 3) = 3 * (rest.length / 3) + 3 := by
    simp only [List.length_cons]
    omega
  rw [completePart, size]
  rfl

theorem completePart_of_short {values : List α} (short : values.length < 3) :
    completePart values = [] := by
  rw [completePart, Nat.div_eq_of_lt short]
  rfl

/-- What the definition of triples leaves over is shorter than a triple. -/
theorem length_lt_of_short {values : List α}
    (short : ∀ (a b c : α) (rest : List α), values = a :: b :: c :: rest → False) :
    values.length < 3 := by
  match values, short with
  | [], _ => simp
  | [_], _ => simp
  | [_, _], _ => simp
  | a :: b :: c :: rest, short => exact (short a b c rest rfl).elim

/-- There are as many triples as are complete. -/
theorem length_triples (values : List α) : (triples values).length = values.length / 3 := by
  fun_induction triples values with
  | case1 a b c rest ih =>
    simp only [List.length_cons, ih]
    omega
  | case2 values short => exact (Nat.div_eq_of_lt (length_lt_of_short short)).symm

theorem pick_eq_none {places : Corners Nat} {values : List α}
    (beyond : values.length ≤ places.c) : places.pick values = none := by
  have missing : values[places.c]? = none := List.getElem?_eq_none beyond
  cases first : values[places.a]? <;> cases second : values[places.b]? <;>
    simp [Corners.pick, first, second, missing]

theorem getElem?_triples (values : List α) (number : Nat) :
    (triples values)[number]? =
      Corners.pick ⟨3 * number, 3 * number + 1, 3 * number + 2⟩ values := by
  fun_induction triples values generalizing number with
  | case1 a b c rest ih =>
    cases number with
    | zero => rfl
    | succ number =>
      rw [List.getElem?_cons_succ, ih]
      rfl
  | case2 values short =>
    have few := length_lt_of_short short
    exact (pick_eq_none (by dsimp only; omega)).symm

theorem flatMap_triples (values : List α) :
    (triples values).flatMap Corners.toList = completePart values := by
  fun_induction triples values with
  | case1 a b c rest ih =>
    rw [completePart_cons, List.flatMap_cons, ih]
    rfl
  | case2 values short => rw [completePart_of_short (length_lt_of_short short), List.flatMap_nil]

/-- Values left over at the end do not matter. -/
theorem triples_completePart (values : List α) :
    triples (completePart values) = triples values := by
  fun_induction triples values with
  | case1 a b c rest ih => rw [completePart_cons, triples, ih]
  | case2 values short => rw [completePart_of_short (length_lt_of_short short), triples]; simp

/-! ## Strips and fans -/

/-- The places of a triangle of a strip, the first of which is turned over when marked. -/
def stripPlaces (turned : Bool) (number : Nat) : Corners Nat :=
  if (number + turned.toNat) % 2 = 0 then ⟨number, number + 1, number + 2⟩
  else ⟨number + 1, number, number + 2⟩

theorem stripPlaces_succ (turned : Bool) (number : Nat) :
    stripPlaces turned (number + 1) = (stripPlaces (!turned) number).map (· + 1) := by
  have parity : (number + 1 + turned.toNat) % 2 = (number + (!turned).toNat) % 2 := by
    cases turned with
    | false => rfl
    | true => exact Nat.add_mod_right number 2
  rw [stripPlaces, stripPlaces, parity]
  split <;> rfl

theorem getElem?_stripTriangles (turned : Bool) (values : List α) (number : Nat) :
    (stripTriangles turned values)[number]? = (stripPlaces turned number).pick values := by
  fun_induction stripTriangles turned values generalizing number with
  | case1 turned a b c rest ih =>
    cases number with
    | zero => cases turned <;> rfl
    | succ number =>
      rw [List.getElem?_cons_succ, ih, stripPlaces_succ]
      rfl
  | case2 turned values short =>
    have few := length_lt_of_short short
    refine (pick_eq_none ?_).symm
    rw [stripPlaces]
    split <;> (dsimp only; omega)

theorem getElem?_hubTriangles (hub : α) (path : List α) (number : Nat) :
    (hubTriangles hub path)[number]? =
      Corners.pick ⟨0, number + 1, number + 2⟩ (hub :: path) := by
  fun_induction hubTriangles hub path generalizing number with
  | case1 a b rest ih =>
    cases number with
    | zero => rfl
    | succ number =>
      rw [List.getElem?_cons_succ, ih]
      rfl
  | case2 path short =>
    have few : path.length < 2 := by
      match path, short with
      | [], _ => simp
      | [_], _ => simp
      | a :: b :: rest, short => exact (short a b rest rfl).elim
    refine (pick_eq_none ?_).symm
    simp only [List.length_cons]
    omega

theorem stripTriangles_of_short {turned : Bool} {values : List α} (short : values.length < 3) :
    stripTriangles turned values = [] := by
  match values, short with
  | [], _ => rfl
  | [_], _ => rfl
  | [_, _], _ => rfl

theorem fanTriangles_of_short {values : List α} (short : values.length < 3) :
    fanTriangles values = [] := by
  match values, short with
  | [], _ => rfl
  | [_], _ => rfl
  | [_, _], _ => rfl

/-! ## The first index that fails a test -/

section Find

variable {stray : α → Bool}

/-- After two sound indices every triangle of a strip brings one new index, whichever way it
is turned. -/
theorem find?_flatMap_stripTriangles (turned : Bool) {a b : α} (soundA : stray a = false)
    (soundB : stray b = false) (rest : List α) :
    ((stripTriangles turned (a :: b :: rest)).flatMap Corners.toList).find? stray =
      rest.find? stray := by
  induction rest generalizing turned a b with
  | nil => rfl
  | cons c rest ih =>
    rw [stripTriangles, List.flatMap_cons, List.find?_append]
    have atNew : (Corners.toList (if turned then ⟨b, a, c⟩ else ⟨a, b, c⟩)).find? stray =
        [c].find? stray := by
      cases turned <;> simp [Corners.toList, soundA, soundB]
    rw [atNew]
    cases isStray : stray c with
    | true => simp [isStray]
    | false => simp [isStray, ih (!turned) soundB isStray]

theorem find?_flatMap_strip {values : List α} (enough : 3 ≤ values.length) :
    ((stripTriangles false values).flatMap Corners.toList).find? stray = values.find? stray := by
  match values, enough with
  | a :: b :: c :: rest, _ =>
    cases strayA : stray a with
    | true => simp [stripTriangles, Corners.toList, strayA]
    | false =>
      cases strayB : stray b with
      | true => simp [stripTriangles, Corners.toList, strayA, strayB]
      | false =>
        rw [find?_flatMap_stripTriangles false strayA strayB]
        simp [strayA, strayB]

/-- After a sound hub and a sound index every triangle of a fan brings one new index. -/
theorem find?_flatMap_hubTriangles {hub a : α} (soundHub : stray hub = false)
    (soundA : stray a = false) (rest : List α) :
    ((hubTriangles hub (a :: rest)).flatMap Corners.toList).find? stray = rest.find? stray := by
  induction rest generalizing a with
  | nil => rfl
  | cons b rest ih =>
    rw [hubTriangles, List.flatMap_cons, List.find?_append]
    cases isStray : stray b with
    | true => simp [Corners.toList, soundHub, soundA, isStray]
    | false => simp [Corners.toList, soundHub, soundA, isStray, ih isStray]

theorem find?_flatMap_fan {values : List α} (enough : 3 ≤ values.length) :
    ((fanTriangles values).flatMap Corners.toList).find? stray = values.find? stray := by
  match values, enough with
  | hub :: a :: b :: rest, _ =>
    rw [fanTriangles]
    cases strayHub : stray hub with
    | true => simp [hubTriangles, Corners.toList, strayHub]
    | false =>
      cases strayA : stray a with
      | true => simp [hubTriangles, Corners.toList, strayHub, strayA]
      | false =>
        rw [find?_flatMap_hubTriangles strayHub strayA]
        simp [strayHub, strayA]

end Find

/-! ## Index buffers -/

/-- The places in a buffer of the corners of a triangle. -/
def Connectivity.places : Connectivity → Nat → Corners Nat
  | .separate, number => ⟨3 * number, 3 * number + 1, 3 * number + 2⟩
  | .strip, number => stripPlaces false number
  | .fan, number => ⟨0, number + 1, number + 2⟩

namespace IndexBuffer

variable {buffer : IndexBuffer}

/-- The indices that belong to a triangle: the complete triples of separate triangles, and
all of a strip or a fan that is long enough for one. -/
def entries (buffer : IndexBuffer) : List Nat :=
  match buffer.primitive with
  | .points => []
  | .lines => []
  | .triangles =>
    match buffer.connectivity with
    | .separate => completePart buffer.indices
    | .strip => if 3 ≤ buffer.indices.length then buffer.indices else []
    | .fan => if 3 ≤ buffer.indices.length then buffer.indices else []

theorem triangles_eq_nil (otherwise : buffer.primitive ≠ .triangles) : buffer.triangles = [] := by
  unfold triangles
  split
  · rfl
  · rfl
  · exact (otherwise ‹_›).elim

/-- **The triangles of a buffer by the places of their corners.** -/
theorem getElem?_triangles (isTriangles : buffer.primitive = .triangles) (number : Nat) :
    buffer.triangles[number]? = (buffer.connectivity.places number).pick buffer.indices := by
  obtain ⟨primitive, connectivity, indices⟩ := buffer
  obtain rfl : primitive = .triangles := isTriangles
  cases connectivity with
  | separate => exact getElem?_triples indices number
  | strip => exact getElem?_stripTriangles false indices number
  | fan =>
    cases indices with
    | nil => rfl
    | cons hub rim => exact getElem?_hubTriangles hub rim number

/-- **The first stray corner of the triangles of a buffer is its first stray entry.** -/
theorem find?_flatMap_triangles (buffer : IndexBuffer) (stray : Nat → Bool) :
    (buffer.triangles.flatMap Corners.toList).find? stray = buffer.entries.find? stray := by
  obtain ⟨primitive, connectivity, indices⟩ := buffer
  cases primitive with
  | points => rfl
  | lines => rfl
  | triangles =>
    cases connectivity with
    | separate => exact congrArg (List.find? stray) (flatMap_triples indices)
    | strip =>
      simp only [triangles, entries]
      split
      · rename_i enough
        exact find?_flatMap_strip enough
      · rename_i short
        rw [stripTriangles_of_short (Nat.lt_of_not_le short)]
        rfl
    | fan =>
      simp only [triangles, entries]
      split
      · rename_i enough
        exact find?_flatMap_fan enough
      · rename_i short
        rw [fanTriangles_of_short (Nat.lt_of_not_le short)]
        rfl

/-- A buffer without the indices that belong to no triangle. -/
def trimmed (buffer : IndexBuffer) : IndexBuffer := { buffer with indices := buffer.entries }

theorem triangles_trimmed (buffer : IndexBuffer) : buffer.trimmed.triangles = buffer.triangles := by
  obtain ⟨primitive, connectivity, indices⟩ := buffer
  cases primitive with
  | points => rfl
  | lines => rfl
  | triangles =>
    cases connectivity with
    | separate => exact triples_completePart indices
    | strip =>
      simp only [triangles, trimmed, entries]
      split
      · rfl
      · rename_i short
        rw [stripTriangles_of_short (Nat.lt_of_not_le short)]
        rfl
    | fan =>
      simp only [triangles, trimmed, entries]
      split
      · rfl
      · rename_i short
        rw [fanTriangles_of_short (Nat.lt_of_not_le short)]
        rfl

end IndexBuffer

end RayTracer
