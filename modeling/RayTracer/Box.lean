import RayTracer.Ray

/-!
# Boxes

Axis-aligned boxes, given by their least and greatest corners. The empty box
has its corners at infinity the wrong way round, so that it is neutral for
unions and inserting a point into it gives the box of that point.

`Box.meets` is the slab test: a ray is clipped against the two planes of the
box across every axis in turn, and the box is met when something is left of the
ray beyond its origin and before the bound.
-/

set_option autoImplicit false

namespace RayTracer

/-- An axis-aligned box. -/
@[ext] structure Box (S : Type) where
  /-- The least corner. -/
  lower : Vec3 S
  /-- The greatest corner. -/
  upper : Vec3 S
deriving Repr, DecidableEq

/-- A stretch of a line between two parameters. -/
@[ext] structure Span (S : Type) where
  /-- The parameter at which the stretch begins. -/
  enter : S
  /-- The parameter at which the stretch ends. -/
  leave : S
deriving Repr, DecidableEq

variable {S : Type} [Scalar S]

namespace Box

/-- The box without points. -/
def empty : Box S := ⟨.splat Scalar.infinity, .splat (-Scalar.infinity)⟩

/-- The box of all points. -/
def everywhere : Box S := ⟨.splat (-Scalar.infinity), .splat Scalar.infinity⟩

/-- The empty box stands for an unspecified one. -/
instance instInhabited : Inhabited (Box S) := ⟨empty⟩

/-- A box is empty when its corners are the wrong way round along some axis. -/
def isEmpty (box : Box S) : Bool :=
  decide (box.upper.x < box.lower.x ∨ box.upper.y < box.lower.y ∨ box.upper.z < box.lower.z)

/-- The smallest box around a box and a point. -/
def insert (box : Box S) (point : Vec3 S) : Box S :=
  ⟨box.lower.inf point, box.upper.sup point⟩

/-- The smallest box around two boxes. -/
def union (first second : Box S) : Box S :=
  ⟨first.lower.inf second.lower, first.upper.sup second.upper⟩

/-- The smallest box around a list of points. -/
def ofPoints (points : List (Vec3 S)) : Box S := points.foldl insert empty

/-- The box grown by a margin on every side. An empty box stays as it is. -/
def padded (box : Box S) (margin : S) : Box S :=
  if box.isEmpty then box
  else ⟨box.lower - Vec3.splat margin, box.upper + Vec3.splat margin⟩

/-- The surface area, zero for an empty box. -/
def area (box : Box S) : S :=
  if box.isEmpty then 0
  else
    let extent := box.upper - box.lower
    2 * (extent.x * extent.y + extent.y * extent.z + extent.z * extent.x)

/-- The middle of a box. -/
def centre (box : Box S) : Vec3 S := (0.5 : S) • (box.lower + box.upper)

/-- A point lies in a box when every component is between those of the corners. -/
def contains (box : Box S) (point : Vec3 S) : Bool :=
  decide ((box.lower.x ≤ point.x ∧ box.lower.y ≤ point.y ∧ box.lower.z ≤ point.z) ∧
    point.x ≤ box.upper.x ∧ point.y ≤ box.upper.y ∧ point.z ≤ box.upper.z)

theorem contains_iff_get {box : Box S} {point : Vec3 S} :
    box.contains point = true ↔
      ∀ axis : Axis, box.lower.get axis ≤ point.get axis ∧ point.get axis ≤ box.upper.get axis := by
  rw [contains, decide_eq_true_iff]
  constructor
  · rintro ⟨⟨lowerX, lowerY, lowerZ⟩, upperX, upperY, upperZ⟩ axis
    cases axis with
    | x => exact ⟨lowerX, upperX⟩
    | y => exact ⟨lowerY, upperY⟩
    | z => exact ⟨lowerZ, upperZ⟩
  · intro inside
    exact ⟨⟨(inside .x).1, (inside .y).1, (inside .z).1⟩, (inside .x).2, (inside .y).2,
      (inside .z).2⟩

end Box

namespace Span

/-- The whole line. -/
def line : Span S := ⟨-Scalar.infinity, Scalar.infinity⟩

/-- Clip a stretch of a line against the slab between two planes across an axis.
The line has the given origin and direction along that axis. A line that is
nearly parallel to the slab is kept whole or dropped whole, according to the
side its origin is on. -/
def clip (span : Span S) (lower upper origin direction : S) : Option (Span S) :=
  if Scalar.abs direction < epsilon then
    if origin < lower ∨ upper < origin then none else some span
  else
    let inverse := 1 / direction
    let atLower := (lower - origin) * inverse
    let atUpper := (upper - origin) * inverse
    let backwards := decide (inverse < 0)
    let enter := Scalar.maxNum span.enter (if backwards then atUpper else atLower)
    let leave := Scalar.minNum span.leave (if backwards then atLower else atUpper)
    if leave < enter then none else some ⟨enter, leave⟩

end Span

namespace Box

/-- Clip a stretch of a ray's line against the slab of a box across an axis. -/
def clip (box : Box S) (ray : Ray S) (axis : Axis) (span : Span S) : Option (Span S) :=
  span.clip (box.lower.get axis) (box.upper.get axis) (ray.origin.get axis) (ray.direction.get axis)

/-- The stretch of a ray's line inside a box. -/
def span (box : Box S) (ray : Ray S) : Option (Span S) := do
  let acrossX ← box.clip ray .x .line
  let acrossY ← box.clip ray .y acrossX
  box.clip ray .z acrossY

/-- A ray meets a box when it is inside the box at some parameter between zero
and the bound. -/
def meets (box : Box S) (ray : Ray S) (bound : S) : Bool :=
  match box.span ray with
  | none => false
  | some inside => decide (0 < inside.leave ∧ inside.enter < bound)

end Box

end RayTracer
