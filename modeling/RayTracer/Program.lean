import RayTracer.Demo
import RayTracer.Obj.Model
import RayTracer.Scene.Render
import RayTracer.Settings

/-!
# The program

Renders the demonstration scene, with a mesh from a file if the settings name
one, and writes the picture to a file. The settings are read from a file if one
is given as an argument.

The program is written over any host that can read files and write pictures, so
that it can run on real files or on a model of them.
-/

set_option autoImplicit false

namespace RayTracer

variable {S : Type} [Scalar S]

/-! ## The picture -/

namespace Settings

/-- The material of a mesh from a file. -/
def meshMaterial (settings : Settings S) : Material S :=
  let color := settings.meshColor
  .phong (.of ((0.2 : S) • color) color (.splat 0.4) 0 10)

/-- The lights of the picture. -/
def selectedLights (settings : Settings S) : LightSelection S :=
  LightSource.select settings.lightSources settings.lights

/-- The demonstration scene with the lights of the picture. -/
def litScene (settings : Settings S) : Scene S :=
  (Demo.populate (settings.applyTo .empty)).addLights settings.selectedLights.lights

/-- The scene of the picture, with meshes from a file. -/
def scene (settings : Settings S) (inputs : List (MeshInput S)) : Addition S :=
  settings.litScene.addMeshes inputs settings.meshMaterial

/-- Render the picture. -/
def render [Single S] (settings : Settings S) (inputs : List (MeshInput S)) : Rendering S :=
  (settings.scene inputs).scene.prepare.render (.blank settings.width settings.height)
    settings.maxDepth

end Settings

/-! ## Names of files -/

/-- The name of the file that a path leads to. -/
def fileName? (path : String) : Option String :=
  let parts := (path.splitOn "/").filter fun part => part ≠ "" ∧ part ≠ "."
  parts.getLast?.filter (· ≠ "..")

/-- The part of the name of a file after the last dot, if there is something
before that dot. -/
def extension? (path : String) : Option String := do
  let name ← fileName? path
  let parts := name.splitOn "."
  if parts.length < 2 ∨ (parts.length = 2 ∧ parts.head? = some "") then none
  else parts.getLast?

/-- A picture can be written to a file with the extension of pictures. -/
def isPicturePath (path : String) : Bool :=
  (extension? path).any fun extension => extension.map Char.toLower == "png"

/-! ## Running -/

/-- What the program needs of its surroundings. -/
structure Host (m : Type → Type) where
  /-- The content of a file, if it can be read. -/
  content : String → m (Option String)
  /-- Write a picture to a file. The answer tells whether that was possible. -/
  writePicture : String → Image → m Bool

/-- Why the program failed. -/
inductive Failure where
  /-- The settings cannot be read or used. -/
  | settings (path : String)
  /-- The mesh cannot be read or used. -/
  | mesh (path : String)
  /-- The picture cannot be rendered. -/
  | render
  /-- The picture cannot be written. -/
  | write (path : String)
deriving Repr, DecidableEq

/-- The text of a failure. -/
def Failure.message : Failure → String
  | .settings path => "Failed to load settings from " ++ path
  | .mesh path => "Failed to load OBJ file " ++ path
  | .render => "Render failed"
  | .write path => "Failed to write " ++ path

/-- How the program ends. -/
structure Ending where
  /-- The warnings raised on the way. -/
  warnings : List String
  /-- The failure, if there was one. -/
  failure : Option Failure
deriving Repr, DecidableEq

/-- The code that the program exits with. -/
def Ending.exitCode (ending : Ending) : Nat := if ending.failure.isSome then 1 else 0

variable {m : Type → Type} [Monad m]

/-- Load the settings from the file that the first argument names, if any. -/
def loadSettings [OfDecimal S] (host : Host m) (arguments : List String) :
    m (Except Failure (Settings S)) := do
  match arguments with
  | [] => return .ok .standard
  | path :: _ =>
    match ← host.content path with
    | none => return .error (.settings path)
    | some text => return (Settings.ofText text).mapError fun _ => .settings path

/-- Load the meshes from the file that the settings name, if any. -/
def loadMeshes [Single S] (host : Host m) (settings : Settings S) :
    m (Except Failure (List (MeshInput S))) := do
  match settings.meshPath with
  | none => return .ok []
  | some path => return (Obj.load (← host.content path)).mapError fun _ => .mesh path

/-- Write a picture that has pixels to a file for pictures. -/
def writePicture (host : Host m) (path : String) (image : Image) : m (Except Failure Unit) := do
  if isPicturePath path ∧ 0 < image.width ∧ 0 < image.height then
    if ← host.writePicture path image then return .ok ()
  return .error (.write path)

/-- Render a picture and write it to its file. -/
def produce [Single S] (host : Host m) (settings : Settings S) (inputs : List (MeshInput S)) :
    m (Except Failure Unit) :=
  let rendering := settings.render inputs
  match rendering.outcome with
  | .finished _ => writePicture host settings.output rendering.image
  | .refused _ => return .error .render
  | .faulted _ => return .error .render

/-- The ending after a last step. -/
def Ending.after (warnings : List String) (result : Except Failure Unit) : Ending :=
  match result with
  | .ok () => ⟨warnings, none⟩
  | .error failure => ⟨warnings, some failure⟩

/-- Run the program with scalars of a type. -/
def run (S : Type) [Scalar S] [Single S] [OfDecimal S] (host : Host m) (arguments : List String) :
    m Ending := do
  let loaded : Except Failure (Settings S) ← loadSettings host arguments
  match loaded with
  | .error failure => return ⟨[], some failure⟩
  | .ok settings =>
    let lightWarnings := settings.selectedLights.warnings
    match ← loadMeshes host settings with
    | .error failure => return ⟨lightWarnings, some failure⟩
    | .ok inputs =>
      let warnings := lightWarnings ++ (settings.scene inputs).warnings
      return .after warnings (← produce host settings inputs)

end RayTracer
