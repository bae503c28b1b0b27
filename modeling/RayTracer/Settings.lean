import RayTracer.Ingest.LightSource
import RayTracer.Json.Decode

/-!
# Settings

Everything a picture needs besides its geometry, read from a JSON text. Every
setting has a standard value, so a text need only list what is different.
-/

set_option autoImplicit false

namespace RayTracer

/-- The settings of a picture. -/
structure Settings (S : Type) where
  /-- The number of columns of the picture. -/
  width : Nat
  /-- The number of rows of the picture. -/
  height : Nat
  /-- Where the scene is seen from. -/
  camera : View S
  /-- The colour of rays that meet nothing. -/
  background : Color S
  /-- The factor on the colour of pixels that show something. -/
  lightIntensity : S
  /-- The greatest number of mirrored rays in a row. -/
  maxDepth : Nat
  /-- The number of workers, when it is to be a particular one. -/
  workerThreads : Option Nat
  /-- The light of the rig that is used when there are no usable sources. -/
  lights : Emission S
  /-- The light sources. -/
  lightSources : List (LightSource S)
  /-- The file of a mesh that is added to the scene. -/
  meshPath : Option String
  /-- The colour of that mesh. -/
  meshColor : Color S
  /-- The file that the picture is written to. -/
  output : String
deriving Repr, DecidableEq

variable {S : Type} [Scalar S]

namespace Settings

/-- The standard settings. -/
def standard : Settings S where
  width := 100
  height := 100
  camera := .standard
  background := 0
  lightIntensity := 100
  maxDepth := 1
  workerThreads := none
  lights := .warm
  lightSources := []
  meshPath := none
  meshColor := ⟨0.5, 0.9, 0.5⟩
  output := "render.png"

/-- The size of the picture. -/
def size (settings : Settings S) : ImageSize := ⟨settings.width, settings.height⟩

/-- Give a scene the settings that concern it. -/
def applyTo (settings : Settings S) (scene : Scene S) : Scene S :=
  { (scene.setImageSize settings.size).setView settings.camera with
    background := settings.background
    lightIntensity := settings.lightIntensity
    workerThreads := settings.workerThreads }

end Settings

/-! ## Reading settings -/

namespace Settings

open Json

variable [OfDecimal S]

/-- The bound of 32-bit numbers. -/
def bound32 : Nat := 0x100000000

/-- The bound of 64-bit numbers. -/
def bound64 : Nat := 0x10000000000000000

/-- The fields of a view. -/
def viewFields : List (RecordField (View S)) :=
  [.free "look_from" vector fun view lookFrom => { view with lookFrom },
    .free "look_to" vector fun view lookTo => { view with lookTo },
    .free "look_up" vector fun view lookUp => { view with lookUp },
    .free "fov" number fun view fieldOfView => { view with fieldOfView }]

/-- The fields of the light of a rig. -/
def emissionFields : List (RecordField (Emission S)) :=
  [.free "ambient" vector fun emission ambient => { emission with ambient },
    .free "diffuse" vector fun emission diffuse => { emission with diffuse },
    .free "specular" vector fun emission specular => { emission with specular }]

/-- The fields of a light source. -/
def lightSourceFields : List (RecordField (LightSource S)) :=
  [.compulsory "kind" (choice LightKind.ofName?) fun source kind => { source with kind },
    .compulsory "position" vector fun source position => { source with position },
    .compulsory "intensity" vector fun source intensity => { source with intensity }]

/-- Decode a light source. -/
def lightSource : Value → Decoded (LightSource S) := record lightSourceFields ⟨.point, 0, 0⟩

/-- The fields of settings. -/
def fields : List (RecordField (Settings S)) :=
  [.free "width" (natural bound32) fun settings width => { settings with width },
    .free "height" (natural bound32) fun settings height => { settings with height },
    .free "camera" (record viewFields .standard) fun settings camera => { settings with camera },
    .free "background" vector fun settings background => { settings with background },
    .free "light_intensity" number fun settings lightIntensity =>
      { settings with lightIntensity },
    .free "max_depth" (natural bound64) fun settings maxDepth => { settings with maxDepth },
    .free "worker_threads" (optional (natural bound64)) fun settings workerThreads =>
      { settings with workerThreads },
    .free "lights" (record emissionFields .warm) fun settings lights => { settings with lights },
    .free "light_sources" (list lightSource) fun settings lightSources =>
      { settings with lightSources },
    .free "mesh_path" (optional text) fun settings meshPath => { settings with meshPath },
    .free "mesh_color" vector fun settings meshColor => { settings with meshColor },
    .free "output" text fun settings output => { settings with output }]

/-- Read settings from a text. -/
def ofText (text : String) : Decoded (Settings S) := decodeText (record fields .standard) text

end Settings

end RayTracer
