import RayTracer.Image

/-!
# PNG files

Encodes a picture as a PNG file: a signature, a header, the rows of the picture
and an end marker. Every part has a checksum. The rows are not compressed; they
are stored in blocks of a format that allows for that, with a checksum of its
own.
-/

set_option autoImplicit false

namespace RayTracer.Png

/-- Four bytes of a number, the most significant first. -/
def bigEndian (value : UInt32) : List UInt8 :=
  [(value >>> 24).toUInt8, (value >>> 16).toUInt8, (value >>> 8).toUInt8, value.toUInt8]

/-- Two bytes of a number, the least significant first. -/
def littleEndian (value : Nat) : List UInt8 := [UInt8.ofNat value, UInt8.ofNat (value / 256)]

/-! ## Checksums -/

/-- Divide by the generator of the cyclic checksum, by one bit. -/
def cyclicBit (remainder : UInt32) : UInt32 :=
  if remainder &&& 1 = 1 then (remainder >>> 1) ^^^ 0xEDB88320 else remainder >>> 1

/-- Add a byte to the cyclic checksum. -/
def cyclicByte (remainder : UInt32) (byte : UInt8) : UInt32 :=
  (List.range 8).foldl (fun remainder _ => cyclicBit remainder) (remainder ^^^ byte.toUInt32)

/-- The cyclic checksum of bytes. -/
def cyclicChecksum (bytes : List UInt8) : UInt32 := bytes.foldl cyclicByte 0xFFFFFFFF ^^^ 0xFFFFFFFF

/-- The two sums of the summing checksum. -/
def sums (bytes : List UInt8) : Nat × Nat :=
  bytes.foldl (fun (low, high) byte =>
    let low := (low + byte.toNat) % 65521
    (low, (high + low) % 65521)) (1, 0)

/-- The summing checksum of bytes. -/
def summingChecksum (bytes : List UInt8) : UInt32 :=
  let (low, high) := sums bytes
  UInt32.ofNat (65536 * high + low)

/-! ## Stored data -/

/-- The greatest number of bytes in a block. -/
def blockSize : Nat := 65535

/-- A block of stored bytes. -/
def block (last : Bool) (bytes : List UInt8) : List UInt8 :=
  (if last then 1 else 0) :: littleEndian bytes.length ++ littleEndian (65535 - bytes.length) ++
    bytes

/-- Bytes stored in blocks. -/
def blocks (bytes : List UInt8) : List UInt8 :=
  if bytes.length ≤ blockSize then block true bytes
  else block false (bytes.take blockSize) ++ blocks (bytes.drop blockSize)
termination_by bytes.length
decreasing_by
  simp only [List.length_drop, blockSize] at *
  omega

/-- Bytes stored in blocks, with a header and a checksum. -/
def stored (bytes : List UInt8) : List UInt8 :=
  [0x78, 0x01] ++ blocks bytes ++ bigEndian (summingChecksum bytes)

/-! ## The file -/

/-- A part of the file: its length, its name, its content and a checksum. -/
def chunk (name : List UInt8) (content : List UInt8) : List UInt8 :=
  bigEndian (UInt32.ofNat content.length) ++ name ++ content ++
    bigEndian (cyclicChecksum (name ++ content))

/-- The signature at the start of the file. -/
def signature : List UInt8 := [0x89, 0x50, 0x4E, 0x47, 0x0D, 0x0A, 0x1A, 0x0A]

/-- The header: the size of the picture, and eight bits for each of four channels. -/
def header (image : Image) : List UInt8 :=
  bigEndian (UInt32.ofNat image.width) ++ bigEndian (UInt32.ofNat image.height) ++ [8, 6, 0, 0, 0]

/-- The channels of a pixel. -/
def channels (pixel : BytePixel) : List UInt8 :=
  [pixel.red, pixel.green, pixel.blue, pixel.opacity]

/-- The rows of a picture, each marked as unfiltered. -/
def scanlines (rows : List (List BytePixel)) : List UInt8 :=
  rows.flatMap fun row => 0 :: row.flatMap channels

/-- The file of a picture. -/
def encode (image : Image) : Except OutOfRange (List UInt8) := do
  let rows ← image.bytes
  return signature ++ chunk [0x49, 0x48, 0x44, 0x52] (header image) ++
    chunk [0x49, 0x44, 0x41, 0x54] (stored (scanlines rows)) ++
    chunk [0x49, 0x45, 0x4E, 0x44] []

end RayTracer.Png
