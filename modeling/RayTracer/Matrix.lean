import RayTracer.Vec3

/-!
# Matrices

Square matrices of order three and four, stored by columns. A matrix of order
four moves mesh vertices into the world: points are transformed with a
homogeneous division, normals with the inverse transpose of the upper left
block, so that they stay perpendicular to transformed surfaces.
-/

set_option autoImplicit false

namespace RayTracer

/-- A vector of four scalars. -/
@[ext] structure Vec4 (S : Type) where
  /-- The first three components. -/
  xyz : Vec3 S
  /-- The fourth component. -/
  w : S
deriving Repr, DecidableEq

/-- A square matrix of order three, by columns. -/
@[ext] structure Matrix3 (S : Type) where
  /-- The first column. -/
  x : Vec3 S
  /-- The second column. -/
  y : Vec3 S
  /-- The third column. -/
  z : Vec3 S
deriving Repr, DecidableEq

/-- A square matrix of order four, by columns. -/
@[ext] structure Matrix4 (S : Type) where
  /-- The first column. -/
  x : Vec4 S
  /-- The second column. -/
  y : Vec4 S
  /-- The third column. -/
  z : Vec4 S
  /-- The fourth column. -/
  w : Vec4 S
deriving Repr, DecidableEq

variable {S : Type} [Scalar S]

namespace Matrix3

/-- The product of a matrix and a vector. -/
def apply (matrix : Matrix3 S) (vector : Vec3 S) : Vec3 S :=
  vector.x • matrix.x + vector.y • matrix.y + vector.z • matrix.z

/-- The matrix with rows and columns exchanged. -/
def transpose (matrix : Matrix3 S) : Matrix3 S :=
  ⟨⟨matrix.x.x, matrix.y.x, matrix.z.x⟩,
    ⟨matrix.x.y, matrix.y.y, matrix.z.y⟩,
    ⟨matrix.x.z, matrix.y.z, matrix.z.z⟩⟩

/-- The determinant. -/
def determinant (matrix : Matrix3 S) : S := matrix.z.dot (matrix.x.cross matrix.y)

/-- The inverse, from the cofactors and the determinant. A singular matrix gives
values that are not finite. -/
def inverse (matrix : Matrix3 S) : Matrix3 S :=
  let scale : S := 1 / matrix.determinant
  transpose
    ⟨scale • matrix.y.cross matrix.z,
      scale • matrix.z.cross matrix.x,
      scale • matrix.x.cross matrix.y⟩

end Matrix3

namespace Matrix4

/-- The identity matrix. -/
def identity : Matrix4 S :=
  ⟨⟨Vec3.basis .x, 0⟩, ⟨Vec3.basis .y, 0⟩, ⟨Vec3.basis .z, 0⟩, ⟨0, 1⟩⟩

/-- The product of a matrix and the vector of a point with fourth component one. -/
def applyPoint (matrix : Matrix4 S) (point : Vec3 S) : Vec4 S :=
  ⟨point.x • matrix.x.xyz + point.y • matrix.y.xyz + point.z • matrix.z.xyz +
      (1 : S) • matrix.w.xyz,
    matrix.x.w * point.x + matrix.y.w * point.y + matrix.z.w * point.z + matrix.w.w * 1⟩

/-- A transformed point: the product divided by its fourth component, or left
undivided when that component is zero. -/
def transformPoint (matrix : Matrix4 S) (point : Vec3 S) : Vec3 S :=
  let image := matrix.applyPoint point
  if image.w == 0 then image.xyz else image.xyz / image.w

/-- The upper left block. -/
def linearPart (matrix : Matrix4 S) : Matrix3 S :=
  ⟨matrix.x.xyz, matrix.y.xyz, matrix.z.xyz⟩

/-- The matrix that transforms normals: the inverse transpose of the linear part. -/
def normalMatrix (matrix : Matrix4 S) : Matrix3 S := matrix.linearPart.inverse.transpose

end Matrix4

end RayTracer
