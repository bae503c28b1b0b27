import RayTracer.Vec3

/-!
# Lights

Point lights with separate colours for ambient, diffuse and specular light, and
the rig of three lights for scenes that bring none of their own.
-/

set_option autoImplicit false

namespace RayTracer

/-- A colour: the intensities of red, green and blue light. -/
abbrev Color := Vec3

/-- The colours of the light that a source sends out. -/
@[ext] structure Emission (S : Type) where
  /-- The light that reaches everything. -/
  ambient : Color S
  /-- The light that is scattered. -/
  diffuse : Color S
  /-- The light that is mirrored. -/
  specular : Color S
deriving Repr, DecidableEq

/-- A point light. -/
@[ext] structure Light (S : Type) extends Emission S where
  /-- Where the light is. -/
  position : Vec3 S
deriving Repr, DecidableEq

variable {S : Type} [Scalar S]

/-- A white light at the coordinate origin. -/
def Light.white : Light S := ⟨⟨.splat 1, .splat 1, .splat 1⟩, 0⟩

namespace Emission

/-- The colours of the standard rig. -/
def warm : Emission S :=
  let color : Color S := ⟨0.8, 0.65, 0.6⟩
  ⟨color, color, color⟩

/-- A light at a position whose diffuse light is tinted. -/
def tinted (emission : Emission S) (position : Vec3 S) (tint : Color S) : Light S :=
  ⟨{ emission with diffuse := emission.diffuse * tint }, position⟩

/-- The rig of three lights: two warm key lights and a cool one that fills in. -/
def rig (emission : Emission S) : List (Light S) :=
  let warmTint : Color S := Vec3.unit ⟨200, 170, 150⟩
  let coolTint : Color S := Vec3.unit ⟨130, 160, 200⟩
  [emission.tinted ⟨5, 2, 6⟩ warmTint,
    emission.tinted ⟨5, -7, 3⟩ warmTint,
    emission.tinted ⟨-10, 4, 5⟩ coolTint]

end Emission

end RayTracer
