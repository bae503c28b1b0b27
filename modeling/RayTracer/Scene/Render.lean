import RayTracer.Scene.Trace

/-!
# Rendering

A picture is rendered row by row; the rows may be worked on at the same time.
What a worker does to the state shared by all workers is a list of effects: it
counts the events of a pixel, and it writes the pixel. A worker gives up a row
at the first fault in it; this does not concern the other rows. The effects of
different rows concern different pixels, and counting does not depend on order,
so the rows may be worked on in any order. Here they are worked on one after the
other (`Scene.paint`).

A scene refuses to render into a picture unless the size and the view have been
set, it is prepared, and the picture has the right size. It does not count the
pixels. The rows are those that the pixels of the picture make up (`Image.rows`), and
a row beyond the height has no number when it is counted from the bottom: that is a
fault.
-/

set_option autoImplicit false

namespace RayTracer

/-- The opaque pixel of a colour. -/
def Pixel.opaqueOf {S : Type} [Single S] (color : Color S) : Pixel :=
  ⟨Single.toSingle color.x, Single.toSingle color.y, Single.toSingle color.z, 1⟩

/-- What a worker does to the shared state. -/
inductive Effect where
  /-- Count the events of a pixel. -/
  | count (tally : Tally)
  /-- Write the pixel at an index. -/
  | write (index : Nat) (pixel : Pixel)
  /-- Give up. -/
  | fail (fault : OutOfRange)
deriving Repr

/-- The effects up to the first fault, that one included. -/
def Effect.untilFault : List Effect → List Effect
  | [] => []
  | .fail fault :: _ => [.fail fault]
  | effect :: rest => effect :: untilFault rest

/-- The state shared by the workers. -/
structure Canvas where
  /-- The picture. -/
  image : Image
  /-- The counters. -/
  counters : Counters
  /-- The first fault, if there was one. -/
  fault : Option OutOfRange

namespace Canvas

/-- The shared state after an effect. Of several faults the first is kept. -/
def apply (canvas : Canvas) : Effect → Canvas
  | .count tally => { canvas with counters := canvas.counters.advance tally }
  | .write index pixel =>
    match canvas with
    | ⟨image, counters, failure⟩ =>
      match image.put index pixel with
      | .ok image => ⟨image, counters, failure⟩
      | .error fault => ⟨image, counters, failure.or (some fault)⟩
  | .fail fault => { canvas with fault := canvas.fault.or (some fault) }

end Canvas

/-- The numbers reported after rendering. -/
structure Report where
  /-- The events of the rendering. -/
  counters : Counters
  /-- The number of workers, when the scene asks for a particular one. -/
  workerThreads : Option Nat
deriving Repr, DecidableEq

/-- How rendering ends. -/
inductive Outcome where
  /-- The scene refuses to render. -/
  | refused (error : SceneError)
  /-- A query faulted. -/
  | faulted (fault : OutOfRange)
  /-- The picture is complete. -/
  | finished (report : Report)
deriving Repr, DecidableEq

/-- The results of rendering. -/
structure Rendering (S : Type) where
  /-- How rendering ended. -/
  outcome : Outcome
  /-- The picture afterwards. -/
  image : Image
  /-- The scene afterwards. -/
  scene : Scene S

namespace Scene

variable {S : Type} [Scalar S]

/-- The colour of the pixel at a column and a row from the bottom. -/
def pixelColor (scene : Scene S) (camera : Camera S) (column row greatestDepth : Nat) :
    Counted (Color S) := do
  let sighting ← scene.trace (camera.rayThrough column row) 0 greatestDepth
  return if sighting.found then scene.lightIntensity • sighting.color else sighting.color

/-- Check that a scene can be rendered into a picture of a size. -/
def check (scene : Scene S) (actual : ImageSize) : Except SceneError (Camera S) := do
  let camera ← scene.camera
  if !scene.prepared then .error .notPrepared
  match scene.imageSize with
  | none => .error .imageSizeNotSet
  | some expected =>
    if actual = expected then return camera else .error (.bufferSizeMismatch expected actual)

variable [Single S]

/-- The effects of rendering a pixel. -/
def pixelEffects (scene : Scene S) (camera : Camera S) (size : ImageSize) (greatestDepth row : Nat)
    (column : Nat) : List Effect :=
  let color := scene.pixelColor camera column (size.height - 1 - row) greatestDepth
  match color.outcome with
  | .ok value => [.count color.tally, .write (row * size.width + column) (.opaqueOf value)]
  | .error fault => [.count color.tally, .fail fault]

/-- The effects of rendering a row of a picture, counted from the top. The row is given
up at the first pixel that faults, and at once when it is beyond the height. -/
def rowEffects (scene : Scene S) (camera : Camera S) (image : Image) (greatestDepth row : Nat) :
    List Effect :=
  if row < image.height then
    Effect.untilFault <| (List.range (image.row row).size).flatMap
      (scene.pixelEffects camera image.size greatestDepth row)
  else [.fail ⟨row, image.height⟩]

/-- Render the rows of a picture one after the other. -/
def paint (scene : Scene S) (camera : Camera S) (greatestDepth : Nat) (image : Image) : Canvas :=
  (List.range image.rowCount).foldl (fun canvas row =>
    (scene.rowEffects camera image greatestDepth row).foldl Canvas.apply canvas)
    ⟨image, .zero, none⟩

/-- Render a scene into a picture. -/
def render (scene : Scene S) (image : Image) (greatestDepth : Nat) : Rendering S :=
  match scene.check image.size with
  | .error error => ⟨.refused error, image, scene⟩
  | .ok camera =>
    let canvas := scene.paint camera greatestDepth image
    let rendered := { scene with counters := canvas.counters }
    match canvas.fault with
    | some fault => ⟨.faulted fault, canvas.image, rendered⟩
    | none =>
      let workers := scene.workerThreads.filter (0 < ·)
      ⟨.finished ⟨canvas.counters, workers⟩, canvas.image, rendered⟩

end Scene

end RayTracer
