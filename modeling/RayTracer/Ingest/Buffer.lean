import RayTracer.Triangle

/-!
# Buffers

Meshes arrive as flat buffers. An attribute buffer holds a number of values for
each vertex. An index buffer describes primitives by the vertices they connect;
only triangles matter here.

Triangles are listed as triples, strips or fans. In a strip every index after
the second forms a triangle with the two before it, and every other triangle is
turned over so that all face the same way. In a fan every index after the
second forms a triangle with the first index and the one before it. Incomplete
triangles are dropped.
-/

set_option autoImplicit false

namespace RayTracer

/-! ## Attribute buffers -/

/-- Values for the vertices of a mesh, one vertex after the other. -/
structure AttributeBuffer (S : Type) where
  /-- The number of values for each vertex. -/
  components : Nat
  /-- The values. -/
  values : List S
deriving Repr, DecidableEq

/-- A list cut into triples, without an incomplete one at the end. -/
def triples {α : Type} : List α → List (Corners α)
  | a :: b :: c :: rest => ⟨a, b, c⟩ :: triples rest
  | _ => []

namespace AttributeBuffer

variable {S : Type}

/-- The buffer of a list of vectors. -/
def ofVectors (vectors : List (Vec3 S)) : AttributeBuffer S :=
  ⟨3, vectors.flatMap Vec3.toList⟩

/-- The number of complete vertices. -/
def count (buffer : AttributeBuffer S) : Nat := buffer.values.length / buffer.components

/-- The vectors in a buffer of three values for each vertex. -/
def vectors (buffer : AttributeBuffer S) : List (Vec3 S) :=
  (triples buffer.values).map fun triple => ⟨triple.a, triple.b, triple.c⟩

end AttributeBuffer

/-! ## Index buffers -/

/-- The kind of primitive that an index buffer describes. -/
inductive Primitive where
  /-- Single vertices. -/
  | points
  /-- Pairs of vertices. -/
  | lines
  /-- Triangles. -/
  | triangles
deriving Repr, DecidableEq, Inhabited

/-- How consecutive indices form primitives. -/
inductive Connectivity where
  /-- Every primitive has its own indices. -/
  | separate
  /-- A primitive shares indices with the one before it. -/
  | strip
  /-- All primitives share the first index. -/
  | fan
deriving Repr, DecidableEq, Inhabited

/-- Indices of vertices that form primitives. -/
structure IndexBuffer where
  /-- The kind of primitive. -/
  primitive : Primitive
  /-- How the indices form primitives. -/
  connectivity : Connectivity
  /-- The indices. -/
  indices : List Nat
deriving Repr, DecidableEq

/-- The triangles of a strip. The first of them is turned over when marked. -/
def stripTriangles {α : Type} (turned : Bool) : List α → List (Corners α)
  | a :: b :: c :: rest =>
    (if turned then ⟨b, a, c⟩ else ⟨a, b, c⟩) :: stripTriangles (!turned) (b :: c :: rest)
  | _ => []

/-- The triangles between a vertex and the edges of a path. -/
def hubTriangles {α : Type} (hub : α) : List α → List (Corners α)
  | a :: b :: rest => ⟨hub, a, b⟩ :: hubTriangles hub (b :: rest)
  | _ => []

/-- The triangles of a fan. -/
def fanTriangles {α : Type} : List α → List (Corners α)
  | [] => []
  | hub :: rim => hubTriangles hub rim

namespace IndexBuffer

/-- A buffer of separate triangles. -/
def ofTriangles (indices : List Nat) : IndexBuffer := ⟨.triangles, .separate, indices⟩

/-- The triangles that an index buffer describes. -/
def triangles (buffer : IndexBuffer) : List (Corners Nat) :=
  match buffer.primitive with
  | .points => []
  | .lines => []
  | .triangles =>
    match buffer.connectivity with
    | .separate => triples buffer.indices
    | .strip => stripTriangles false buffer.indices
    | .fan => fanTriangles buffer.indices

end IndexBuffer

end RayTracer
