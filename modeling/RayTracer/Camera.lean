import RayTracer.Ray

/-!
# Cameras

A pinhole camera. A view says where the camera is and where it looks; a camera
is a view resolved for an image of a given size.

The image plane is one unit in front of the camera and reaches equally far to
all sides, so an image that is not square is stretched. Pixels are counted from
the bottom left corner, and rays pass through their middles.
-/

set_option autoImplicit false

namespace RayTracer

/-- Where a camera is and where it looks. -/
@[ext] structure View (S : Type) where
  /-- The place of the camera. -/
  lookFrom : Vec3 S
  /-- The point in the middle of the picture. -/
  lookTo : Vec3 S
  /-- A direction that points upwards in the picture. -/
  lookUp : Vec3 S
  /-- The angle that the picture spans, in degrees. -/
  fieldOfView : S
deriving Repr, DecidableEq

/-- A view resolved for an image size. -/
@[ext] structure Camera (S : Type) where
  /-- The place of the camera. -/
  position : Vec3 S
  /-- The direction to the middle of the picture. -/
  forward : Vec3 S
  /-- The step from a pixel to the next one in its row. -/
  right : Vec3 S
  /-- The step from a pixel to the one above. -/
  up : Vec3 S
  /-- The middle of the pixel in the bottom left corner. -/
  firstPixel : Vec3 S
deriving Repr, DecidableEq

variable {S : Type} [Scalar S]

/-- The view on the coordinate origin from an elevated place. -/
def View.standard : View S := ⟨⟨5, 0, 5⟩, 0, Vec3.basis .z, 60⟩

/-- Half the extent of the picture on the image plane. -/
def View.halfExtent (view : View S) : S := Scalar.tan (Scalar.radians view.fieldOfView / 2)

namespace Camera

/-- The step between pixels when a number of them spans two units. -/
def pixelStep (count : Nat) : S := 2 / Scalar.ofNat (max count 1)

/-- A view resolved for an image size, with a given half extent of the picture. -/
def expose (view : View S) (halfExtent : S) (width height : Nat) : Camera S :=
  let forward := (view.lookTo - view.lookFrom).unit
  let rightward := (forward.cross view.lookUp).unit
  let upward := (rightward.cross forward).unit
  let toRight := halfExtent • rightward
  let toTop := halfExtent • upward
  let corner := view.lookFrom + forward - toRight - toTop
  let right := (pixelStep width : S) • toRight
  let up := (pixelStep height : S) • toTop
  ⟨view.lookFrom, forward, right, up, corner + (0.5 : S) • (right + up)⟩

/-- A view resolved for an image size. -/
def ofView (view : View S) (width height : Nat) : Camera S :=
  expose view view.halfExtent width height

/-- The ray through the middle of a pixel. Columns are counted from the left,
rows from the bottom. -/
def rayThrough (camera : Camera S) (column row : Nat) : Ray S :=
  .through camera.position
    (camera.firstPixel + (Scalar.ofNat column : S) • camera.right +
      (Scalar.ofNat row : S) • camera.up)

end Camera

end RayTracer
