import RayTracer.Ingest.MeshInput
import RayTracer.Obj.Statement
import Std.Data.HashMap

/-!
# Models of mesh files

A mesh file is a list of models. Positions, texture coordinates and normals are
numbered through the whole file, from one; negative numbers count back from the
last one given. A model numbers the vertices of its faces anew: combinations of
a position, a texture coordinate and a normal get numbers in the order in which
they first occur. Faces are cut into triangles around their first vertex.

Texture coordinates and colours are only counted. Nothing uses them, but
references to them must be good.

References are checked when the faces of a model are put together, which is at
the beginning of the next model or at the end of the file.
-/

set_option autoImplicit false

namespace RayTracer.Obj

/-! ## References -/

/-- The places that a vertex of a face refers to, counted from zero. A place
that is not given, or just before the first, is left out. -/
abbrev VertexKey := Parts (Option Int)

/-- The place that a number refers to when a number of places have been given. -/
def place (count : Nat) (number : Option Int) : Option Int :=
  let place := number.map fun (number : Int) => if number < 0 then count + number else number - 1
  place.filter (· ≠ -1)

/-- What has been given so far for faces to refer to. -/
structure Tables where
  /-- The positions. -/
  positions : Array (Vec3 Float32)
  /-- The number of colour values. -/
  colorValues : Nat
  /-- The number of texture coordinates. -/
  texcoords : Nat
  /-- The normals. -/
  normals : Array (Vec3 Float32)

/-- The places that a vertex refers to. -/
def Tables.key (tables : Tables) (vertex : Parts (Option Int)) : VertexKey :=
  ⟨place tables.positions.size vertex.position, place tables.texcoords vertex.texcoord,
    place tables.normals.size vertex.normal⟩

/-- A place within a number of places. -/
def within (place : Int) (count : Nat) : Bool := 0 ≤ place && place < count

/-- The normal of a vertex, if it has one. -/
def Tables.normalOf (tables : Tables) (key : VertexKey) : Except Error (Option (Vec3 Float32)) :=
  match key.normal with
  | some place =>
    if tables.normals.isEmpty then .ok none
    else if place < 0 then .error .normalOutOfBounds
    else
      match tables.normals[place.toNat]? with
      | some normal => .ok (some normal)
      | none => .error .normalOutOfBounds
  | none => .ok none

/-- The position of a vertex. -/
def Tables.positionOf (tables : Tables) (key : VertexKey) : Except Error (Vec3 Float32) :=
  match key.position with
  | some place =>
    if place < 0 then .error .vertexOutOfBounds
    else
      match tables.positions[place.toNat]? with
      | some position => .ok position
      | none => .error .vertexOutOfBounds
  | none => .error .vertexOutOfBounds

/-- The texture coordinate of a vertex exists if there are any and it is given. -/
def Tables.texcoordFits (tables : Tables) (key : VertexKey) : Bool :=
  match key.texcoord with
  | some place => tables.texcoords = 0 || within place tables.texcoords
  | none => true

/-- The colour of a vertex exists if there are any. -/
def Tables.colorFits (tables : Tables) (key : VertexKey) : Bool :=
  match key.position with
  | some place => tables.colorValues = 0 || 3 * place + 2 < tables.colorValues
  | none => true

/-! ## Putting a model together -/

/-- A model: vertices, and triangles as a list of vertex numbers. -/
structure Model where
  /-- The positions of the vertices. -/
  positions : Array (Vec3 Float32)
  /-- The normals of the vertices that have one. -/
  normals : Array (Vec3 Float32)
  /-- The vertices of the triangles, one triangle after the other. -/
  indices : Array Nat

/-- A model that is being put together. -/
structure Assembly where
  /-- The model so far. -/
  model : Model
  /-- The numbers of the vertices. -/
  numbers : Std.HashMap VertexKey Nat

/-- Nothing put together yet. -/
def Assembly.empty : Assembly := ⟨⟨#[], #[], #[]⟩, ∅⟩

/-- Add a corner of a triangle. A vertex is copied when it first occurs. -/
def Assembly.addCorner (tables : Tables) (assembly : Assembly) (key : VertexKey) :
    Except Error Assembly := do
  let model := assembly.model
  match assembly.numbers[key]? with
  | some number =>
    return { assembly with model := { model with indices := model.indices.push number } }
  | none =>
    let position ← tables.positionOf key
    if !tables.texcoordFits key then .error .texcoordOutOfBounds
    let normal ← tables.normalOf key
    if !tables.colorFits key then .error .colorOutOfBounds
    let number := assembly.numbers.size
    let model : Model := {
      positions := model.positions.push position
      normals := model.normals ++ normal.toArray
      indices := model.indices.push number }
    return ⟨model, assembly.numbers.insert key number⟩

/-- The corners of the triangles that a face is cut into. -/
def cornersOf {α : Type} : List α → List α
  | [] => []
  | [a] => [a, a, a]
  | [a, b] => [a, b, b]
  | hub :: rim => (hubTriangles hub rim).flatMap Corners.toList

/-- Add a face. -/
def Assembly.addFace (tables : Tables) (assembly : Assembly) (face : List VertexKey) :
    Except Error Assembly :=
  if face.isEmpty then .error .polygon
  else (cornersOf face).foldlM (Assembly.addCorner tables) assembly

/-- The model of a list of faces. -/
def Tables.model (tables : Tables) (faces : Array (List VertexKey)) : Except Error Model := do
  return (← faces.foldlM (Assembly.addFace tables) .empty).model

/-! ## Reading a file -/

/-- A file that is being read. -/
structure Reading where
  /-- What has been given for faces to refer to. -/
  tables : Tables
  /-- The faces of the present model. -/
  faces : Array (List VertexKey)
  /-- The models before the present one. -/
  models : List Model

/-- Nothing read yet. -/
def Reading.start : Reading := ⟨⟨#[], 0, 0, #[]⟩, #[], []⟩

/-- Conclude the present model. -/
def Reading.conclude (reading : Reading) : Except Error Reading := do
  let model ← reading.tables.model reading.faces
  return { reading with faces := #[], models := reading.models ++ [model] }

/-- Follow a statement. -/
def Reading.follow (reading : Reading) : Statement → Except Error Reading
  | .position point colorValues =>
    let tables := reading.tables
    .ok { reading with
      tables := { tables with
        positions := tables.positions.push point
        colorValues := tables.colorValues + colorValues } }
  | .texcoord =>
    .ok { reading with tables.texcoords := reading.tables.texcoords + 1 }
  | .normal vector =>
    .ok { reading with tables.normals := reading.tables.normals.push vector }
  | .face vertices =>
    .ok { reading with faces := reading.faces.push (vertices.map reading.tables.key) }
  | .model => if reading.faces.isEmpty then .ok reading else reading.conclude
  | .ignored => .ok reading

/-- Read a line. -/
def Reading.line (reading : Reading) (line : String) : Except Error Reading := do
  reading.follow (← statement line.toList)

/-- The models of a text. The last one counts even when it has no faces. -/
def models (text : String) : Except Error (List Model) := do
  let reading ← (text.splitOn "\n").foldlM Reading.line .start
  return (← reading.conclude).models

/-! ## Meshes -/

variable {S : Type} [Scalar S]

/-- Add the area vector of a triangle to the normals of its vertices. A triangle
with a vertex that does not exist is left out. -/
def addFaceNormal (vertices normals : Array (Vec3 S)) (face : Face) : Array (Vec3 S) :=
  match Mesh.gather vertices face with
  | .ok corners =>
    face.toList.foldl (fun normals index => normals.modify index (· + corners.areaVector)) normals
  | .error _ => normals

/-- Smooth normals for vertices without normals: the directions of the sums of
the area vectors around each vertex. Both lists are flat. -/
def smoothNormals (positions : List S) (indices : List Nat) : List S :=
  let vertices := (AttributeBuffer.vectors ⟨3, positions⟩).toArray
  let none : Array (Vec3 S) := Array.replicate vertices.size 0
  let sums := (triples indices).foldl (addFaceNormal vertices) none
  (sums.toList.map Vec3.unitOrZero).flatMap Vec3.toList

/-- The flat list of the components of single precision vectors. -/
def widen [Single S] (vectors : Array (Vec3 Float32)) : List S :=
  vectors.toList.flatMap fun vector => (vector.map Single.ofSingle).toList

/-- A model as a mesh, with smooth normals if it has none. -/
def Model.toInput [Single S] (model : Model) : MeshInput S :=
  let positions : List S := widen model.positions
  let normals : List S :=
    if model.normals.isEmpty then smoothNormals positions model.indices.toList
    else widen model.normals
  ⟨some ⟨3, positions⟩, some ⟨3, normals⟩, .identity, [.ofTriangles model.indices.toList]⟩

/-- The meshes of a file, given its content if it can be opened. -/
def load [Single S] (content : Option String) : Except Error (List (MeshInput S)) :=
  match content with
  | none => .error .openFailed
  | some text => (models text).map (List.map Model.toInput)

end RayTracer.Obj
