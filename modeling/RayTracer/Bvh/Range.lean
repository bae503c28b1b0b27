import RayTracer.Bvh.Item

/-!
# Ranges of a shared order

All nodes of a tree of boxes share one array of triangle indices, and each owns
a range of it. The items of a range are read in their present order
(`readItems`); when they have been sorted they are written back over the range
(`overwrite`). Reading a range that is not inside the array faults, and so does
reading an item that is not there.

What is written over a range is what is read from it and from its parts
(`extract_overwrite`), the rest of the array stays as it is
(`extract_overwrite_of_apart`), and writing the values of a range in another
order permutes the array (`perm_overwrite`).
-/

set_option autoImplicit false

namespace RayTracer.Bvh

section Arrays

variable {α : Type}

/-! ## Reading and writing -/

/-- The part of an array from one index up to another. -/
def fetchRange (array : Array α) (start stop : Nat) : Except OutOfRange (Array α) :=
  if start ≤ stop ∧ stop ≤ array.size then .ok (array.extract start stop)
  else .error ⟨stop, array.size⟩

/-- Replace the value at an index of an array. -/
def store (array : Array α) (index : Nat) (value : α) : Except OutOfRange (Array α) :=
  if index < array.size then .ok (array.setIfInBounds index value)
  else .error ⟨index, array.size⟩

/-- Write values over an array, from an index on. -/
def overwrite (array : Array α) (start : Nat) : List α → Array α
  | [] => array
  | value :: rest => overwrite (array.setIfInBounds start value) (start + 1) rest

theorem store_of_lt {array : Array α} {index : Nat} (inRange : index < array.size) (value : α) :
    store array index value = .ok (array.setIfInBounds index value) :=
  if_pos inRange

/-! ## What has been written -/

@[simp] theorem size_overwrite (array : Array α) (start : Nat) (values : List α) :
    (overwrite array start values).size = array.size := by
  induction values generalizing array start with
  | nil => rfl
  | cons value rest ih => rw [overwrite, ih, Array.size_setIfInBounds]

/-- Writing one list after another is writing them together. -/
theorem overwrite_append (array : Array α) (start : Nat) (first second : List α) :
    overwrite array start (first ++ second) =
      overwrite (overwrite array start first) (start + first.length) second := by
  induction first generalizing array start with
  | nil => rfl
  | cons value rest ih =>
    rw [List.cons_append, overwrite, ih, overwrite, List.length_cons, Nat.add_right_comm,
      Nat.add_assoc]

/-- An array is what comes before a range, what is written over the range, and what
comes after it. -/
theorem toList_overwrite {array : Array α} {start : Nat} {values : List α}
    (inside : start + values.length ≤ array.size) :
    (overwrite array start values).toList =
      array.toList.take start ++ values ++ array.toList.drop (start + values.length) := by
  induction values generalizing array start with
  | nil => simp [overwrite]
  | cons value rest ih =>
    rw [List.length_cons] at inside
    have restInside : start + 1 + rest.length ≤ (array.setIfInBounds start value).size := by
      rw [Array.size_setIfInBounds]
      omega
    have inList : start < array.toList.length := by
      rw [Array.length_toList]
      omega
    rw [overwrite, ih restInside, Array.toList_setIfInBounds, List.drop_set_of_lt (by omega),
      List.take_add_one, List.take_set_of_le (Nat.le_refl start), List.getElem?_set_self inList,
      List.length_cons, Nat.add_right_comm, Nat.add_assoc]
    simp

/-- What is written over a range again replaces what was written before. -/
theorem overwrite_overwrite {array : Array α} {start : Nat} {first second : List α}
    (inside : start + first.length ≤ array.size) (sameLength : first.length = second.length) :
    overwrite (overwrite array start first) start second = overwrite array start second := by
  have before : (array.toList.take start).length = start := by
    rw [List.length_take, Array.length_toList]
    omega
  have still : start + second.length ≤ (overwrite array start first).size := by
    rw [size_overwrite]
    omega
  rw [← Array.toList_inj, toList_overwrite still, toList_overwrite inside,
    toList_overwrite (by omega), List.append_assoc (array.toList.take start),
    List.take_left' before, ← List.append_assoc, List.drop_left' (by simp [before, sameLength]),
    sameLength]

/-- The parts of what has been written are read back. -/
theorem extract_overwrite {array : Array α} {start : Nat} {values : List α}
    (inside : start + values.length ≤ array.size) {first last : Nat} (ordered : first ≤ last)
    (within : last ≤ values.length) :
    ((overwrite array start values).extract (start + first) (start + last)).toList =
      (values.drop first).take (last - first) := by
  have before : (array.toList.take start).length = start := by
    rw [List.length_take, Array.length_toList]
    omega
  have skipped : (array.toList.take start ++ values ++
        array.toList.drop (start + values.length)).drop (start + first) =
      values.drop first ++ array.toList.drop (start + values.length) := by
    rw [List.append_assoc, List.drop_append, before, Nat.add_sub_cancel_left,
      List.drop_eq_nil_of_le (by omega), List.nil_append, List.drop_append_of_le_length (by omega)]
  rw [Array.toList_extract, List.extract_eq_take_drop, toList_overwrite inside, skipped,
    Nat.add_sub_add_left, List.take_append_of_le_length]
  rw [List.length_drop]
  omega

/-- What lies outside the range that is written stays as it is. -/
theorem extract_overwrite_of_apart (array : Array α) {start : Nat} {values : List α}
    {first last : Nat} (apart : last ≤ start ∨ start + values.length ≤ first) :
    (overwrite array start values).extract first last = array.extract first last := by
  induction values generalizing array start with
  | nil => rfl
  | cons value rest ih =>
    rw [List.length_cons] at apart
    rw [overwrite, ih _ (by omega)]
    refine Array.ext_getElem? fun index => ?_
    rw [Array.getElem?_extract, Array.getElem?_extract, Array.size_setIfInBounds]
    split
    · exact Array.getElem?_setIfInBounds_ne (by omega)
    · rfl

/-- **Writing the values of a range in another order permutes the array.** -/
theorem perm_overwrite {array : Array α} {start stop : Nat} {values : List α}
    (inside : start ≤ stop ∧ stop ≤ array.size)
    (perm : values.Perm (array.extract start stop).toList) :
    (overwrite array start values).toList.Perm array.toList := by
  have length : values.length = stop - start := by
    rw [perm.length_eq, Array.length_toList, Array.size_extract]
    omega
  have parts : array.toList =
      array.toList.take start ++ (array.extract start stop).toList ++ array.toList.drop stop := by
    have joined := List.take_append_drop (stop - start) (array.toList.drop start)
    rw [List.drop_drop, Nat.add_sub_cancel' inside.1] at joined
    rw [Array.toList_extract, List.extract_eq_take_drop, List.append_assoc, joined,
      List.take_append_drop]
  have isStop : start + values.length = stop := by omega
  rw [toList_overwrite (by omega), isStop]
  conv => rhs; rw [parts]
  exact (perm.append_left _).append_right _

end Arrays

/-! ## The items of a range -/

variable {S : Type}

/-- The items of a range, in their present order. -/
def readItems (items : Array (Item S)) (order : Array Nat) (start stop : Nat) :
    Except OutOfRange (List (Item S)) := do
  let range ← fetchRange order start stop
  range.toList.mapM (fetch items)

theorem length_of_mapM_fetch {items : Array (Item S)} {indices : List Nat} {range : List (Item S)}
    (read : indices.mapM (fetch items) = .ok range) : range.length = indices.length := by
  induction indices generalizing range with
  | nil =>
    obtain rfl : [] = range := Except.ok.inj read
    rfl
  | cons index rest ih =>
    rw [List.mapM_cons] at read
    obtain ⟨item, -, read⟩ := exists_of_bind_eq_ok read
    obtain ⟨others, readOthers, read⟩ := exists_of_bind_eq_ok read
    obtain rfl : item :: others = range := Except.ok.inj read
    rw [List.length_cons, ih readOthers, List.length_cons]

/-- A range has as many items as places. -/
theorem length_of_readItems {items : Array (Item S)} {order : Array Nat} {start stop : Nat}
    {range : List (Item S)} (read : readItems items order start stop = .ok range) :
    start + range.length = stop := by
  unfold readItems fetchRange at read
  split at read
  · rename_i inside
    have length : range.length = (order.extract start stop).size := length_of_mapM_fetch read
    rw [Array.size_extract] at length
    omega
  · cases read

/-- Writing over one range does not matter to another. -/
theorem readItems_overwrite_of_apart (items : Array (Item S)) (order : Array Nat)
    {start : Nat} {values : List Nat} {first last : Nat}
    (apart : last ≤ start ∨ start + values.length ≤ first) :
    readItems items (overwrite order start values) first last =
      readItems items order first last := by
  rw [readItems, readItems, fetchRange, fetchRange, size_overwrite,
    extract_overwrite_of_apart order apart]

/-- Every item is at the place of its own index. -/
def InPlace (items : Array (Item S)) : Prop :=
  ∀ index item, items[index]? = some item → Item.index item = index

section InPlace

variable {items : Array (Item S)} (inPlace : InPlace items)
include inPlace

theorem mapM_fetch_eq_ok_iff {indices : List Nat} {range : List (Item S)} :
    indices.mapM (fetch items) = .ok range ↔
      indices = range.map Item.index ∧ ∀ item ∈ range, items[item.index]? = some item := by
  induction indices generalizing range with
  | nil =>
    rw [List.mapM_nil]
    constructor
    · intro read
      obtain rfl : [] = range := Except.ok.inj read
      exact ⟨rfl, List.forall_mem_nil _⟩
    · rintro ⟨none, -⟩
      rw [List.map_eq_nil_iff.mp none.symm]
      rfl
  | cons index rest ih =>
    rw [List.mapM_cons]
    constructor
    · intro read
      obtain ⟨item, isItem, read⟩ := exists_of_bind_eq_ok read
      obtain ⟨others, readOthers, read⟩ := exists_of_bind_eq_ok read
      obtain rfl : item :: others = range := Except.ok.inj read
      have present := fetch_eq_ok_iff.mp isItem
      obtain ⟨areIndices, areItems⟩ := ih.mp readOthers
      obtain rfl := inPlace _ _ present
      exact ⟨congrArg _ areIndices, List.forall_mem_cons.mpr ⟨present, areItems⟩⟩
    · rintro ⟨areIndices, areItems⟩
      cases range with
      | nil => cases areIndices
      | cons item others =>
        obtain ⟨rfl, sameOthers⟩ := List.cons.inj areIndices
        obtain ⟨present, areItems⟩ := List.forall_mem_cons.mp areItems
        rw [fetch_eq_ok_iff.mpr present, ih.mpr ⟨sameOthers, areItems⟩]
        rfl

/-- **What is read from a range.** -/
theorem readItems_eq_ok_iff {order : Array Nat} {start stop : Nat} {range : List (Item S)} :
    readItems items order start stop = .ok range ↔
      (start ≤ stop ∧ stop ≤ order.size) ∧
        (order.extract start stop).toList = range.map Item.index ∧
        ∀ item ∈ range, items[item.index]? = some item := by
  unfold readItems fetchRange
  split
  · rename_i inside
    rw [and_iff_right inside]
    exact mapM_fetch_eq_ok_iff inPlace
  · rename_i outside
    exact iff_of_false (fun read => nomatch read) fun held => outside held.1

theorem exists_items {indices : List Nat} (present : ∀ index ∈ indices, index < items.size) :
    ∃ range : List (Item S), indices = range.map Item.index ∧
      ∀ item ∈ range, items[item.index]? = some item := by
  induction indices with
  | nil => exact ⟨[], rfl, List.forall_mem_nil _⟩
  | cons index rest ih =>
    obtain ⟨inRange, restPresent⟩ := List.forall_mem_cons.mp present
    obtain ⟨range, areIndices, areItems⟩ := ih restPresent
    have isItem := Array.getElem?_eq_getElem inRange
    have isIndex := inPlace _ _ isItem
    refine ⟨items[index] :: range, ?_, List.forall_mem_cons.mpr ⟨?_, areItems⟩⟩
    · rw [List.map_cons, isIndex, areIndices]
    · rw [isIndex, isItem]

/-- When the items of a range have been written in another order, the parts of it are read
in that order. -/
theorem readItems_overwrite {order : Array Nat} {start stop : Nat} {range placed : List (Item S)}
    (read : readItems items order start stop = .ok range) (perm : placed.Perm range)
    {first last : Nat} (ordered : first ≤ last) (within : last ≤ placed.length) :
    readItems items (overwrite order start (placed.map Item.index)) (start + first)
        (start + last) =
      .ok ((placed.drop first).take (last - first)) := by
  have stop_eq := length_of_readItems read
  obtain ⟨⟨-, stopInside⟩, -, areItems⟩ := (readItems_eq_ok_iff inPlace).mp read
  have placedInside : start + (placed.map Item.index).length ≤ order.size := by
    rw [List.length_map, perm.length_eq]
    omega
  have lastWithin : last ≤ (placed.map Item.index).length := by rwa [List.length_map]
  refine (readItems_eq_ok_iff inPlace).mpr ⟨⟨by omega, ?_⟩, ?_, fun item member => ?_⟩
  · rw [size_overwrite]
    omega
  · rw [extract_overwrite placedInside ordered lastWithin, List.map_take, List.map_drop]
  · exact areItems item
      (perm.subset (List.mem_of_mem_drop (List.mem_of_mem_take member)))

/-- When a range has been left in another order and is cut, both parts are read in that
order. -/
theorem readItems_parts {order : Array Nat} {start stop position : Nat}
    {range placed : List (Item S)} (read : readItems items order start stop = .ok range)
    (perm : placed.Perm range) (within : position ≤ placed.length) :
    let left := overwrite order start (placed.map Item.index)
    readItems items left start (start + position) = .ok (placed.take position) ∧
      readItems items left (start + position) stop = .ok (placed.drop position) := by
  have isStop := length_of_readItems read
  rw [← perm.length_eq] at isStop
  have first := readItems_overwrite inPlace read perm (Nat.zero_le position) within
  have second := readItems_overwrite inPlace read perm within (Nat.le_refl placed.length)
  rw [isStop, List.take_of_length_le (Nat.le_of_eq List.length_drop)] at second
  exact ⟨first, second⟩

/-- A range inside an order of items that are there can be read. -/
theorem exists_readItems {order : Array Nat} {start stop : Nat}
    (inside : start ≤ stop ∧ stop ≤ order.size)
    (present : ∀ index ∈ order.toList, index < items.size) :
    ∃ range, readItems items order start stop = .ok range := by
  have rangePresent : ∀ index ∈ (order.extract start stop).toList, index < items.size := by
    intro index member
    rw [Array.toList_extract, List.extract_eq_take_drop] at member
    exact present index (List.mem_of_mem_drop (List.mem_of_mem_take member))
  obtain ⟨range, areIndices, areItems⟩ := exists_items inPlace rangePresent
  exact ⟨range, (readItems_eq_ok_iff inPlace).mpr ⟨inside, areIndices, areItems⟩⟩

end InPlace

section Items

variable [Scalar S]

theorem size_itemsOf (positions : Array (Vec3 S)) (faces : Array Face) :
    (itemsOf positions faces).toArray.size = faces.size :=
  length_itemsOf positions faces

theorem inPlace_itemsOf (positions : Array (Vec3 S)) (faces : Array Face) :
    InPlace (itemsOf positions faces).toArray := by
  intro index item present
  obtain ⟨inRange, rfl⟩ := Array.getElem?_eq_some_iff.mp present
  simp [itemsOf, Item.ofFace]

theorem map_index_itemsOf (positions : Array (Vec3 S)) (faces : Array Face) :
    (itemsOf positions faces).map Item.index = List.range faces.size := by
  refine List.ext_getElem (by simp [itemsOf]) fun place _ _ => ?_
  simp [itemsOf, Item.ofFace]

/-- All triangles in order are read as all items. -/
theorem readItems_itemsOf (positions : Array (Vec3 S)) (faces : Array Face) :
    readItems (itemsOf positions faces).toArray (.range faces.size) 0 faces.size =
      .ok (itemsOf positions faces) := by
  have inPlace := inPlace_itemsOf positions faces
  refine (readItems_eq_ok_iff inPlace).mpr ⟨⟨Nat.zero_le _, ?_⟩, ?_, fun item member => ?_⟩
  · exact Nat.le_of_eq Array.size_range.symm
  · rw [map_index_itemsOf, Array.toList_extract, Array.toList_range, List.extract_eq_take_drop]
    simp
  · obtain ⟨place, isItem⟩ := List.mem_iff_getElem?.mp member
    rw [← List.getElem?_toArray] at isItem
    rw [inPlace _ _ isItem, isItem]

end Items

end RayTracer.Bvh
