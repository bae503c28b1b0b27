import RayTracer.Hit

/-!
# Images

Pictures of pixels with four channels: red, green, blue and opacity. Pixels are
stored row by row from the top. Nothing forces a picture to have as many pixels as
its width and height demand: its rows are what its pixels make up at its width
(`Image.rows`), so the last one may be short, and there may be more or fewer of
them than the height.

Pixels are addressed by column and row through their index alone: a column
beyond the width reaches into the rows below, and only an index beyond the last
pixel faults.
-/

set_option autoImplicit false

namespace RayTracer

/-- A pixel. -/
@[ext] structure Pixel where
  /-- The intensity of red. -/
  red : Float32
  /-- The intensity of green. -/
  green : Float32
  /-- The intensity of blue. -/
  blue : Float32
  /-- The opacity. -/
  opacity : Float32
deriving Repr, Inhabited

/-- A pixel with channels of one byte. -/
@[ext] structure BytePixel where
  /-- The intensity of red. -/
  red : UInt8
  /-- The intensity of green. -/
  green : UInt8
  /-- The intensity of blue. -/
  blue : UInt8
  /-- The opacity. -/
  opacity : UInt8
deriving Repr, DecidableEq, Inhabited

/-- A transparent black pixel. -/
def Pixel.clear : Pixel := ⟨0, 0, 0, 0⟩

/-- A channel limited to the interval from zero to one. A channel that is not a
number becomes zero. -/
def limitChannel (channel : Float32) : Float32 :=
  let raised := if 0 < channel then channel else 0
  if raised < 1 then raised else 1

/-- A channel as a byte: limited, scaled to 255 and truncated. -/
def channelByte (channel : Float32) : UInt8 := (limitChannel channel * 255).toUInt8

/-- A pixel with its channels as bytes. -/
def Pixel.toBytes (pixel : Pixel) : BytePixel :=
  ⟨channelByte pixel.red, channelByte pixel.green, channelByte pixel.blue,
    channelByte pixel.opacity⟩

/-- The size of a picture. -/
@[ext] structure ImageSize where
  /-- The number of columns. -/
  width : Nat
  /-- The number of rows. -/
  height : Nat
deriving Repr, DecidableEq, Inhabited

/-- A picture. -/
structure Image where
  /-- The number of columns. -/
  width : Nat
  /-- The number of rows. -/
  height : Nat
  /-- The pixels, row by row. -/
  pixels : Array Pixel

namespace Image

/-- The transparent black picture of a size. -/
def blank (width height : Nat) : Image :=
  ⟨width, height, Array.replicate (width * height) .clear⟩

/-- The index of the pixel at a column and a row. -/
def index (image : Image) (column row : Nat) : Nat := row * image.width + column

/-- The pixel at a column and a row. -/
def get (image : Image) (column row : Nat) : Except OutOfRange Pixel :=
  fetch image.pixels (image.index column row)

/-- Replace the pixel at an index. -/
def put (image : Image) (index : Nat) (pixel : Pixel) : Except OutOfRange Image :=
  if index < image.pixels.size then
    .ok { image with pixels := image.pixels.setIfInBounds index pixel }
  else .error ⟨index, image.pixels.size⟩

/-- Replace the pixel at a column and a row. -/
def set (image : Image) (column row : Nat) (pixel : Pixel) : Except OutOfRange Image :=
  image.put (image.index column row) pixel

/-- The size of a picture. -/
def size (image : Image) : ImageSize := ⟨image.width, image.height⟩

/-- The number of rows that the pixels make up. Without columns there are none. -/
def rowCount (image : Image) : Nat :=
  if image.width = 0 then 0 else (image.pixels.size + image.width - 1) / image.width

/-- The pixels of a row, counted from the top. The last row may be short. -/
def row (image : Image) (row : Nat) : Array Pixel :=
  image.pixels.extract (row * image.width) ((row + 1) * image.width)

/-- The rows that the pixels make up, from the top. -/
def rows (image : Image) : List (Array Pixel) := (List.range image.rowCount).map image.row

/-- The pixels as bytes, in rows of the size of the picture. -/
def bytes (image : Image) : Except OutOfRange (List (List BytePixel)) :=
  (List.range image.height).mapM fun row =>
    (List.range image.width).mapM fun column => (image.get column row).map Pixel.toBytes

end Image

end RayTracer
