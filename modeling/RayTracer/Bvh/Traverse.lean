import RayTracer.Bvh.Build

/-!
# Traversing a tree of boxes

The candidates of a ray are the triangles of the leaves whose boxes it meets.
They are collected from left to right with an explicit stack of nodes. The
buffers of a traversal may be reused: their former content does not matter.

A traversal visits every node at most once, so the number of nodes bounds its
length. Only a node array that is not a tree could need more.
-/

set_option autoImplicit false

namespace RayTracer.Bvh

/-- The buffers of a traversal. -/
structure Scratch where
  /-- The indices of the nodes still to be visited, the next one first. -/
  stack : List Nat
  /-- The triangles found so far. -/
  candidates : Array Nat
deriving Repr, DecidableEq, Inhabited

/-- Unused buffers. -/
def Scratch.empty : Scratch := ⟨[], #[]⟩

/-- Forget the content of the buffers and put the root on the stack. -/
def Scratch.restart (_ : Scratch) : Scratch := ⟨[0], #[]⟩

variable {S : Type} [Scalar S]

/-- Visit a node that has been taken off the stack. -/
def visit (tree : Bvh S) (ray : Ray S) (bound : S) (index : Nat) (scratch : Scratch) :
    Except OutOfRange Scratch := do
  let node ← fetch tree.nodes index
  if node.box.meets ray bound then
    match node.content with
    | .inner left right => return { scratch with stack := left :: right :: scratch.stack }
    | .leaf start stop =>
      let found ← fetchRange tree.order start stop
      return { scratch with candidates := scratch.candidates ++ found }
  else
    return scratch

/-- Visit up to a number of nodes from the stack. -/
def traverse (tree : Bvh S) (ray : Ray S) (bound : S) : Nat → Scratch → Except OutOfRange Scratch
  | 0, scratch => return scratch
  | visits + 1, scratch =>
    match scratch.stack with
    | [] => return scratch
    | index :: rest => do
      let visited ← visit tree ray bound index { scratch with stack := rest }
      traverse tree ray bound visits visited

/-- Collect the candidates of a ray in used buffers. -/
def collect (tree : Bvh S) (ray : Ray S) (bound : S) (scratch : Scratch) :
    Except OutOfRange Scratch :=
  traverse tree ray bound tree.nodes.size scratch.restart

/-- The candidates of a ray: the triangles of the leaves whose boxes it meets. -/
def candidates (tree : Bvh S) (ray : Ray S) (bound : S) : Except OutOfRange (Array Nat) := do
  return (← collect tree ray bound .empty).candidates

end RayTracer.Bvh
