import RayTracer.Obj.Word
import RayTracer.Vec3

/-!
# Statements of mesh files

Every line of a mesh file is a statement. It gives a vertex, a texture
coordinate or a normal, or it joins vertices given before to a face, or it
begins a new model. Materials are not used, but a material must have a name.
Everything else is ignored.
-/

set_option autoImplicit false

namespace RayTracer.Obj

/-- Why a mesh file cannot be used. -/
inductive Error where
  /-- The file cannot be opened. -/
  | openFailed
  /-- A position is not three numbers. -/
  | position
  /-- A position is to be divided by zero. -/
  | scaling
  /-- A colour does not have three components. -/
  | color
  /-- A normal is not three numbers. -/
  | normal
  /-- A texture coordinate is not two numbers. -/
  | texcoord
  /-- A face is not a list of vertices. -/
  | face
  /-- A material has no name. -/
  | material
  /-- A face has no vertices. -/
  | polygon
  /-- A face refers to a position that does not exist. -/
  | vertexOutOfBounds
  /-- A face refers to a texture coordinate that does not exist. -/
  | texcoordOutOfBounds
  /-- A face refers to a normal that does not exist. -/
  | normalOutOfBounds
  /-- A face refers to a colour that does not exist. -/
  | colorOutOfBounds
deriving Repr, DecidableEq

/-- The text of an error. -/
def Error.message : Error → String
  | .openFailed => "open file failed"
  | .position => "position parse error"
  | .scaling => "scaling (w) by zero"
  | .color => "color parse error (too many or too few components)"
  | .normal => "normal parse error"
  | .texcoord => "texcoord parse error"
  | .face => "face parse error"
  | .material => "material parse error"
  | .polygon => "invalid polygon"
  | .vertexOutOfBounds => "face vertex index out of bounds"
  | .texcoordOutOfBounds => "face texcoord index out of bounds"
  | .normalOutOfBounds => "face normal index out of bounds"
  | .colorOutOfBounds => "face vertex color index out of bounds"

/-- One value for the position, the texture coordinate and the normal of a
vertex each. -/
structure Parts (α : Type) where
  /-- The value for the position. -/
  position : α
  /-- The value for the texture coordinate. -/
  texcoord : α
  /-- The value for the normal. -/
  normal : α
deriving Repr, DecidableEq, Hashable

/-- A line of a mesh file. -/
inductive Statement where
  /-- A position, and the number of colour values that come with it. -/
  | position (point : Vec3 Float32) (colorValues : Nat)
  /-- A texture coordinate. -/
  | texcoord
  /-- A normal. -/
  | normal (vector : Vec3 Float32)
  /-- A face: for each of its vertices the numbers that are given. -/
  | face (vertices : List (Parts (Option Int)))
  /-- The beginning of a model. -/
  | model
  /-- Nothing of interest. -/
  | ignored

/-! ## Positions, texture coordinates and normals -/

/-- Read the first words as numbers, as many as asked for. -/
def numbers? (count : Nat) (words : List (List Char)) : Option (List Float32) :=
  if words.length < count then none else (words.take count).mapM single?

/-- Read the first three words as a vector. -/
def vector? (words : List (List Char)) : Option (Vec3 Float32) :=
  match numbers? 3 words with
  | some [x, y, z] => some ⟨x, y, z⟩
  | _ => none

/-- The number of words at the start of a list that are numbers. -/
def countNumbers (words : List (List Char)) : Nat :=
  (words.takeWhile fun word => (single? word).isSome).length

/-- Read a position. It may be followed by a number to divide by or by a colour. -/
def positionStatement (words : List (List Char)) : Except Error Statement :=
  match vector? words with
  | none => .error .position
  | some point =>
    match words.drop 3 with
    | [] => .ok (.position point 0)
    | [word] =>
      match single? word with
      | none => .error .position
      | some divisor =>
        if divisor == 0 then .error .scaling
        else .ok (.position (point.map (· / divisor)) 0)
    | [red, green, blue] => .ok (.position point (countNumbers [red, green, blue]))
    | _ => .error .color

/-! ## Faces -/

/-- Read the parts of a vertex of a face. Empty parts are left out. -/
def faceVertex? (word : List Char) : Option (Parts (Option Int)) := do
  let read (part : List Char) : Option (Option Int) :=
    if part.isEmpty then some none else (integer? part).map some
  let parts := word.splitOn '/'
  if (parts.drop 3).any fun part => !part.isEmpty then none
  let position ← read (parts.getD 0 [])
  let texcoord ← read (parts.getD 1 [])
  let normal ← read (parts.getD 2 [])
  return ⟨position, texcoord, normal⟩

/-! ## Lines -/

/-- The text after the first space of a line has something other than white space. -/
def hasArgument (line : List Char) : Bool :=
  ((line.dropWhile (· != ' ')).drop 1).any fun char => !isSpace char

/-- Read a line. -/
def statement (line : List Char) : Except Error Statement :=
  match (words line).map String.ofList, (words line).drop 1 with
  | "v" :: _, arguments => positionStatement arguments
  | "vt" :: _, arguments =>
    if (numbers? 2 arguments).isSome then .ok .texcoord else .error .texcoord
  | "vn" :: _, arguments =>
    match vector? arguments with
    | some vector => .ok (.normal vector)
    | none => .error .normal
  | "f" :: _, arguments => faceStatement arguments
  | "l" :: _, arguments => faceStatement arguments
  | "o" :: _, _ => .ok .model
  | "g" :: _, _ => .ok .model
  | "usemtl" :: _, _ => if hasArgument line then .ok .ignored else .error .material
  | _, _ => .ok .ignored
where
  /-- Read the vertices of a face. -/
  faceStatement (arguments : List (List Char)) : Except Error Statement :=
    match arguments.mapM faceVertex? with
    | some vertices => .ok (.face vertices)
    | none => .error .face

end RayTracer.Obj
