import RayTracer.Mesh

/-!
# Items of a tree of boxes

What a tree of boxes knows of a triangle: its index, a slightly padded box
around it, and the middle of that box. A vertex index that is out of range
contributes nothing to the box.
-/

set_option autoImplicit false

namespace RayTracer.Bvh

/-- A triangle as seen by a tree of boxes. -/
structure Item (S : Type) where
  /-- The index of the triangle. -/
  index : Nat
  /-- The padded box around the triangle. -/
  box : Box S
  /-- The middle of the box. -/
  centre : Vec3 S
deriving Repr, DecidableEq

variable {S : Type} [Scalar S]

/-- The margin around a triangle, so that the box of a flat triangle has a volume. -/
def boxMargin : S := 1e-6

/-- The padded box around the vertices of a face that are in range. -/
def faceBox (positions : Array (Vec3 S)) (face : Face) : Box S :=
  (Box.ofPoints (face.toList.filterMap fun index => positions[index]?)).padded boxMargin

/-- The item of a triangle. -/
def Item.ofFace (positions : Array (Vec3 S)) (index : Nat) (face : Face) : Item S :=
  let box := faceBox positions face
  ⟨index, box, box.centre⟩

/-- The items of all triangles, in order. -/
def itemsOf (positions : Array (Vec3 S)) (faces : Array Face) : List (Item S) :=
  faces.toList.mapIdx (Item.ofFace positions)

/-- The union of the boxes of a list of items. -/
def boundsOf (items : List (Item S)) : Box S :=
  items.foldl (fun bounds item => bounds.union item.box) .empty

/-- An item comes no later than another along an axis: its centre is lower, or
the centres are at the same height and its index is smaller. -/
def Item.precedes (axis : Axis) (first second : Item S) : Bool :=
  ((Scalar.totalCompare (first.centre.get axis) (second.centre.get axis)).then
    (compare first.index second.index)).isLE

/-- Items sorted by their centres along an axis. -/
def sortAlong (axis : Axis) (items : List (Item S)) : List (Item S) :=
  items.mergeSort (Item.precedes axis)

theorem length_itemsOf (positions : Array (Vec3 S)) (faces : Array Face) :
    (itemsOf positions faces).length = faces.size := by
  rw [itemsOf, List.length_mapIdx, Array.length_toList]

theorem sortAlong_perm (axis : Axis) (items : List (Item S)) :
    (sortAlong axis items).Perm items :=
  List.mergeSort_perm items _

end RayTracer.Bvh
