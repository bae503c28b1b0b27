import RayTracer.Camera
import RayTracer.Counted
import RayTracer.Image
import RayTracer.Material
import RayTracer.Shape

/-!
# Scenes

A scene holds renderables, lights, a view and the size of the picture. It is
filled, prepared once, and then rendered any number of times. Adding or
removing renderables makes it unprepared.

Renderables are numbered in the order in which they were added.
-/

set_option autoImplicit false

namespace RayTracer

/-- A shape with a material. -/
structure Renderable (S : Type) where
  /-- The surface. -/
  shape : Shape S
  /-- How the surface reflects light. -/
  material : Material S
deriving Repr

/-- A scene. -/
structure Scene (S : Type) where
  /-- What can be seen. -/
  renderables : List (Renderable S)
  /-- What it is lit by. -/
  lights : List (Light S)
  /-- Where it is seen from, once set. -/
  view : Option (View S)
  /-- The size of the picture, once set. -/
  imageSize : Option ImageSize
  /-- The renderables are ready for queries. -/
  prepared : Bool
  /-- Events since the counters were last reset. -/
  counters : Counters
  /-- The colour of rays that meet nothing. -/
  background : Color S
  /-- The factor on the colour of pixels that show a renderable. -/
  lightIntensity : S
  /-- The number of workers to render with, when it is to be a particular one. -/
  workerThreads : Option Nat
deriving Repr

/-- Why a picture cannot be rendered. -/
inductive SceneError where
  /-- The view has not been set. -/
  | cameraNotConfigured
  /-- The size of the picture has not been set. -/
  | imageSizeNotSet
  /-- The scene is not prepared. -/
  | notPrepared
  /-- The picture to render into does not have the size of the scene. -/
  | bufferSizeMismatch (expected actual : ImageSize)
deriving Repr, DecidableEq

/-- The text of an error. -/
def SceneError.message : SceneError → String
  | .cameraNotConfigured => "camera properties have not been set"
  | .imageSizeNotSet => "image size has not been set; call init() first"
  | .notPrepared => "scene has not been prepared; call prepare_scene() first"
  | .bufferSizeMismatch expected actual =>
    s!"output buffer is {actual.width}x{actual.height} " ++
      s!"but the scene renders {expected.width}x{expected.height}"

namespace Scene

variable {S : Type} [Scalar S]

/-- The scene without renderables and lights, with nothing set. -/
def empty : Scene S where
  renderables := []
  lights := []
  view := none
  imageSize := none
  prepared := false
  counters := .zero
  background := 0
  lightIntensity := 100
  workerThreads := none

/-- Remove all renderables and lights. -/
def clear (scene : Scene S) : Scene S :=
  { scene with renderables := [], lights := [], prepared := false }

/-- Add a renderable. The answer is its number. -/
def add (scene : Scene S) (renderable : Renderable S) : Scene S × Nat :=
  let scene := { scene with
    renderables := scene.renderables ++ [renderable]
    prepared := false }
  (scene, scene.renderables.length - 1)

/-- Add renderables one after the other. -/
def addAll (scene : Scene S) (renderables : List (Renderable S)) : Scene S :=
  renderables.foldl (fun scene renderable => (scene.add renderable).1) scene

/-- Add a light. -/
def addLight (scene : Scene S) (light : Light S) : Scene S :=
  { scene with lights := scene.lights ++ [light] }

/-- Set the size of the picture and reset the counters. -/
def setImageSize (scene : Scene S) (size : ImageSize) : Scene S :=
  { scene with imageSize := some size, counters := .zero }

/-- Set the view. -/
def setView (scene : Scene S) (view : View S) : Scene S := { scene with view := some view }

/-- Make all renderables ready for queries. -/
def prepare (scene : Scene S) : Scene S :=
  { scene with
    renderables := scene.renderables.map fun renderable =>
      { renderable with shape := renderable.shape.prepare }
    prepared := true }

/-- The camera for the view and the size of the picture. -/
def camera (scene : Scene S) : Except SceneError (Camera S) :=
  match scene.imageSize, scene.view with
  | none, _ => .error .imageSizeNotSet
  | some _, none => .error .cameraNotConfigured
  | some size, some view => .ok (.ofView view size.width size.height)

/-- The scene after counting the events of a computation. -/
def count (scene : Scene S) (tally : Tally) : Scene S :=
  { scene with counters := scene.counters.advance tally }

end Scene

end RayTracer
