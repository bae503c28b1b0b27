import RayTracer.Scene.Basic

/-!
# Bringing lights into a scene

Light sources from outside are of several kinds. Only point lights can be
traced; the others are ignored with a warning. When no light is left, the
standard rig takes their place.
-/

set_option autoImplicit false

namespace RayTracer

/-- The kind of a light source. -/
inductive LightKind where
  /-- Light from a point. -/
  | point
  /-- Light from a direction. -/
  | directional
  /-- Light from a point within a cone. -/
  | spot
  /-- Light from a surface. -/
  | area
deriving Repr, DecidableEq, Inhabited

namespace LightKind

/-- The capitalised name of a kind. -/
def title : LightKind → String
  | .point => "Point"
  | .directional => "Directional"
  | .spot => "Spot"
  | .area => "Area"

/-- The name of a kind in settings. -/
def name : LightKind → String
  | .point => "point"
  | .directional => "directional"
  | .spot => "spot"
  | .area => "area"

/-- The kind with a name. -/
def ofName? (name : String) : Option LightKind :=
  [point, directional, spot, area].find? fun kind => kind.name == name

end LightKind

/-- A light source from outside. -/
structure LightSource (S : Type) where
  /-- The kind. -/
  kind : LightKind
  /-- Where the source is. -/
  position : Vec3 S
  /-- The intensity of each channel, up to one hundred. -/
  intensity : Color S
deriving Repr, DecidableEq

/-- Lights with the warnings raised in finding them. -/
structure LightSelection (S : Type) where
  /-- The lights. -/
  lights : List (Light S)
  /-- The warnings. -/
  warnings : List String
deriving Repr

variable {S : Type} [Scalar S]

namespace LightSource

/-- The point light of a source. -/
def light (source : LightSource S) : Light S :=
  let diffuse := source.intensity / (100 : S)
  ⟨⟨(0.2 : S) • diffuse, diffuse, (0.4 : S) • diffuse⟩, source.position⟩

/-- The warning for a source that cannot be used. -/
def warning (source : LightSource S) : String :=
  s!"Only point lights are supported, ignoring {source.kind.title} light"

/-- A source that can be used. -/
def isPoint (source : LightSource S) : Bool := source.kind == .point

/-- The lights for a list of sources, or the rig when there are none. -/
def select (sources : List (LightSource S)) (emission : Emission S) : LightSelection S :=
  let (points, others) := sources.partition isPoint
  let lights := points.map light
  ⟨if lights.isEmpty then emission.rig else lights, others.map warning⟩

end LightSource

/-- Add lights to a scene. -/
def Scene.addLights (scene : Scene S) (lights : List (Light S)) : Scene S :=
  lights.foldl Scene.addLight scene

end RayTracer
