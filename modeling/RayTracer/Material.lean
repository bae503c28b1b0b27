import RayTracer.Intersection
import RayTracer.Light

/-!
# Materials

A material decides how much of the light that arrives at an intersection leaves
it towards the viewer. Whether a light arrives at all is decided by the scene.

* A constant material shows its colour under every light.
* A Phong material has diffuse and specular reflection that fall off with the
  square of the distance to the light.
* A Cook–Torrance material reflects from microfacets, with a Beckmann
  distribution and Schlick's approximation of the Fresnel factor. Its light does
  not fall off.

The constructors `of` force colours to be non-negative and the mirrored
fraction to lie between zero and one.
-/

set_option autoImplicit false

namespace RayTracer

/-- A material that always shows its colour. -/
structure Constant (S : Type) where
  /-- The colour. -/
  color : Color S
deriving Repr, DecidableEq

/-- A material with diffuse and specular reflection. -/
structure Phong (S : Type) where
  /-- The colour of ambient light. -/
  ambient : Color S
  /-- The colour of scattered light. -/
  diffuse : Color S
  /-- The colour of highlights. -/
  specular : Color S
  /-- The fraction of light that is mirrored. -/
  reflectance : S
  /-- The sharpness of highlights. -/
  shininess : S
deriving Repr, DecidableEq

/-- A material of microfacets. -/
structure CookTorrance (S : Type) where
  /-- The colour of the surface. -/
  albedo : Color S
  /-- The spread of the directions of the facets. -/
  roughness : S
  /-- The index of refraction. -/
  refraction : S
  /-- The colour of ambient light. -/
  ambient : Color S
  /-- The fraction of light that is mirrored. -/
  reflectance : S
deriving Repr, DecidableEq

/-- A material. -/
inductive Material (S : Type) where
  /-- A material that always shows its colour. -/
  | constant (surface : Constant S)
  /-- A material with diffuse and specular reflection. -/
  | phong (surface : Phong S)
  /-- A material of microfacets. -/
  | cookTorrance (surface : CookTorrance S)
deriving Repr, DecidableEq

variable {S : Type} [Scalar S]

/-! ## Colours -/

/-- A colour with its negative channels raised to zero. -/
def nonNegative (color : Color S) : Color S := color.sup 0

/-- A colour scaled down so that no channel exceeds one. -/
def atMostOne (color : Color S) : Color S :=
  let greatest := color.greatest
  if 1 < greatest then color / greatest else color

/-- The squared distance from an intersection to a light, kept away from zero. -/
def falloff (intersection : Intersection S) (light : Light S) : S :=
  Scalar.maxNum (light.position - intersection.position).normSquared epsilon

/-! ## Constant materials -/

namespace Constant

/-- The constant material of a colour. -/
def of (color : Color S) : Constant S := ⟨nonNegative color⟩

/-- The standard constant material. -/
def standard : Constant S := of ⟨0, 0.4, 0.8⟩

end Constant

/-! ## Phong materials -/

namespace Phong

/-- The Phong material of given colours and numbers. -/
def of (ambient diffuse specular : Color S) (reflectance shininess : S) : Phong S :=
  ⟨nonNegative ambient, nonNegative diffuse, nonNegative specular,
    Scalar.clamp reflectance 0 1, Scalar.maxNum shininess 0⟩

/-- The standard Phong material. -/
def standard : Phong S :=
  let color : Color S := ⟨0, 0.4, 0.8⟩
  of color color color 0.5 10

/-- The light of a visible light that leaves an intersection. -/
def direct (surface : Phong S) (intersection : Intersection S) (light : Light S) : Color S :=
  let normal := intersection.normal.unit
  let toLight := light.position - intersection.position
  let squaredDistance := falloff intersection light
  let lightDirection := toLight.unit
  let mirrored := (lightDirection - (2 * normal.dot lightDirection) • normal).unit
  let incidence := Scalar.maxNum (normal.dot lightDirection) 0
  let alignment := Scalar.maxNum (mirrored.dot intersection.ray.direction) 0
  let diffuse := incidence • surface.diffuse * light.diffuse / squaredDistance
  let specular :=
    Scalar.pow alignment surface.shininess • surface.specular * light.specular / squaredDistance
  diffuse + specular

end Phong

/-! ## Cook–Torrance materials -/

namespace CookTorrance

/-- The least roughness; below it highlights are too sharp to be of use. -/
def leastRoughness : S := 0.03

/-- The Cook–Torrance material of given colours and numbers. -/
def of (albedo : Color S) (roughness refraction : S) (ambient : Color S) (reflectance : S) :
    CookTorrance S :=
  ⟨nonNegative albedo, roughness, refraction, nonNegative ambient,
    Scalar.clamp reflectance 0 1⟩

/-- The fraction of facets that neither shade nor mask each other. -/
def attenuation (normalHalf viewHalf viewNormal lightNormal : S) : S :=
  if epsilon ≤ viewHalf then
    Scalar.minNum (2 * normalHalf * Scalar.minNum viewNormal lightNormal / viewHalf) 1
  else 1

/-- The Beckmann distribution of facet directions. -/
def distribution (roughness normalHalf : S) : S :=
  let spread := Scalar.square (Scalar.maxNum roughness leastRoughness)
  let squared := normalHalf * normalHalf
  Scalar.exp ((squared - 1) / (spread * squared)) / (4 * spread * squared * squared)

/-- Schlick's approximation of the fraction of light that a facet mirrors. -/
def fresnel (refraction viewNormal : S) : S :=
  let head := (1 - refraction) / (1 + refraction)
  let squared := head * head
  squared + (1 - squared) * Scalar.fifthPower (1 - viewNormal)

/-- The light of a visible light that leaves an intersection. -/
def direct (surface : CookTorrance S) (intersection : Intersection S) (light : Light S) :
    Color S :=
  let direction := intersection.ray.direction
  let normal := intersection.normal.unit
  let lightDirection := (light.position - intersection.position).unit
  let viewNormal := Scalar.clamp ((-direction).dot normal) 0 1
  let lightNormal := Scalar.clamp (normal.dot lightDirection) 0 1
  let half := (lightDirection - direction).unit
  let normalHalf := Scalar.clamp (normal.dot half) epsilon 1
  let viewHalf := Scalar.clamp ((-direction).dot half) 0 1
  let highlight := Scalar.clamp
    (attenuation normalHalf viewHalf viewNormal lightNormal *
      distribution surface.roughness normalHalf * fresnel surface.refraction viewNormal) 0 1
  let specular := highlight • light.diffuse.lerp surface.albedo 0.5
  let diffuse := Scalar.maxNum (normal.dot lightDirection) 0 • surface.albedo * light.diffuse
  diffuse + specular

end CookTorrance

/-! ## All materials -/

namespace Material

/-- The standard material. -/
def standard : Material S := .phong .standard

/-- The colour of ambient light. -/
def ambientColor : Material S → Color S
  | .constant surface => surface.color
  | .phong surface => surface.ambient
  | .cookTorrance surface => surface.ambient

/-- The fraction of light that is mirrored. -/
def reflectance : Material S → S
  | .constant _ => 0
  | .phong surface => surface.reflectance
  | .cookTorrance surface => surface.reflectance

/-- The light of a visible light that leaves an intersection. -/
def direct (material : Material S) (intersection : Intersection S) (light : Light S) : Color S :=
  match material with
  | .constant surface => surface.color
  | .phong surface => surface.direct intersection light
  | .cookTorrance surface => surface.direct intersection light

/-- The light that leaves an intersection whether or not a light is visible. -/
def ambient (material : Material S) (intersection : Intersection S) (light : Light S) : Color S :=
  match material with
  | .constant _ => 0
  | .phong surface => surface.ambient * light.ambient / falloff intersection light
  | .cookTorrance surface => surface.ambient * light.ambient

/-- The tint of mirrored light. -/
def absorption : Material S → Color S
  | .constant surface => surface.color
  | .phong surface => atMostOne (surface.diffuse + surface.ambient)
  | .cookTorrance surface => atMostOne (surface.albedo + surface.ambient)

end Material

end RayTracer
