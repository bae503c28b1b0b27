import RayTracer.Scene.Basic

/-!
# The demonstration scene

A ground plane, a ring of eight coloured spheres that stand on it, and a mirror
sphere in the middle. The spheres of the ring alternate between two sizes and
two kinds of material, and go once around the circle of hues.
-/

set_option autoImplicit false

namespace RayTracer.Demo

variable {S : Type} [Scalar S]

/-- The number of spheres in the ring. -/
def ringSize : Nat := 8

/-- A full turn, in radians. -/
def fullTurn : S := 6.283185307179586

/-- The fully saturated colour of a hue, given in eighths of the circle.

The circle has six sectors; a channel rises or falls over each of them and the
other two are constant. An eighth of the circle is three quarters of a sector,
so the changing channel is a multiple of one quarter. -/
def hueColor (eighths : Nat) : Color S :=
  let quarters := 3 * eighths % 24
  let phase := quarters % 8
  let changing : S := Scalar.ofNat (min phase (8 - phase)) / 4
  match quarters / 4 with
  | 0 => ⟨1, changing, 0⟩
  | 1 => ⟨changing, 1, 0⟩
  | 2 => ⟨0, 1, changing⟩
  | 3 => ⟨0, changing, 1⟩
  | 4 => ⟨changing, 0, 1⟩
  | _ => ⟨1, 0, changing⟩

/-- The ground: slightly blue and reflective. -/
def ground : Renderable S :=
  ⟨.plane .ground, .phong (.of ⟨0.3, 0.3, 0.6⟩ ⟨0.7, 0.7, 0.9⟩ (.splat 0.5) 0.25 10)⟩

/-- A sphere of the ring. -/
def ringSphere (index : Nat) : Renderable S :=
  let angle : S := Scalar.ofNat index / 8 * fullTurn
  let radius : S := if index % 2 = 0 then 0.5 else 0.35
  let color : Color S := hueColor index
  let material : Material S :=
    if index % 2 = 0 then
      .phong (.of ((0.2 : S) • color) color ⟨0.3, 0.3, 0.2⟩ 0.3 40)
    else
      .cookTorrance (.of ((0.5 : S) • color) 0.2 1.5 (.splat 0.2) 0.1)
  ⟨.sphere (.around ⟨2.5 * Scalar.cos angle, 2.5 * Scalar.sin angle, radius⟩ radius), material⟩

/-- The mirror sphere in the middle. -/
def mirror : Renderable S :=
  ⟨.sphere (.around ⟨0, 0, 1⟩ 1), .phong (.of (.splat 0.1) (.splat 0.8) (.splat 1) 0.8 100)⟩

/-- The renderables of the demonstration scene. -/
def renderables : List (Renderable S) :=
  ground :: (List.range ringSize).map ringSphere ++ [mirror]

/-- Add the demonstration scene to a scene. -/
def populate (scene : Scene S) : Scene S := scene.addAll renderables

end RayTracer.Demo
