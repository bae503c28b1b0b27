import RayTracer.Ray

/-!
# Hits and faults

The result of testing a ray against a surface. A hit is reported only at a
parameter strictly between zero and a bound (`InRange`): at zero or below, a
ray would meet the surface it starts on.

Triangles of a mesh refer to vertices by index. Nothing forces these indices to
be in range, so a query that reads a vertex can fault with `OutOfRange`.
-/

set_option autoImplicit false

namespace RayTracer

/-- Reading or writing an array beyond its end, or counting a row from the bottom that
is beyond the height of a picture. -/
structure OutOfRange where
  /-- The index that was asked for. -/
  index : Nat
  /-- The number of elements. -/
  size : Nat
deriving Repr, DecidableEq, Inhabited

/-- The element of an array at an index. -/
@[inline] def fetch {α : Type} (array : Array α) (index : Nat) : Except OutOfRange α :=
  match array[index]? with
  | some value => .ok value
  | none => .error ⟨index, array.size⟩

/-- A computation in two steps that does not fault. -/
theorem exists_of_bind_eq_ok {Error α β : Type} {first : Except Error α}
    {second : α → Except Error β} {result : β} (isResult : first >>= second = .ok result) :
    ∃ value, first = .ok value ∧ second value = .ok result := by
  cases first with
  | error fault => cases isResult
  | ok value => exact ⟨value, rfl, isResult⟩

theorem exists_of_map_eq_ok {α β : Type} {function : α → β} {first : Except OutOfRange α}
    {result : β} (isResult : first.map function = .ok result) :
    ∃ value, first = .ok value ∧ function value = result := by
  cases first with
  | error fault => cases isResult
  | ok value => exact ⟨value, rfl, Except.ok.inj isResult⟩

section Fetch

variable {α : Type} {array : Array α} {index : Nat}

theorem fetch_eq_ok_iff {value : α} :
    fetch array index = .ok value ↔ array[index]? = some value := by
  unfold fetch
  split
  · rename_i present
    rw [present, Except.ok.injEq, Option.some.injEq]
  · rename_i missing
    simp [missing]

theorem exists_fetch (inRange : index < array.size) : ∃ value, fetch array index = .ok value :=
  ⟨array[index], fetch_eq_ok_iff.mpr (Array.getElem?_eq_getElem inRange)⟩

end Fetch

/-- A point at which a ray meets a surface. -/
@[ext] structure SurfaceHit (S : Type) where
  /-- The parameter of the point along the ray. -/
  lambda : S
  /-- The surface normal at the point. -/
  normal : Vec3 S
  /-- Texture coordinates, zero for a surface without them. -/
  uvw : Vec3 S
deriving Repr, DecidableEq, Inhabited

/-- A ray meets a triangle at a parameter and with weights for its corners. -/
@[ext] structure TriangleHit (S : Type) where
  /-- The parameter of the point along the ray. -/
  lambda : S
  /-- The weights of the three corners. -/
  weights : Vec3 S
deriving Repr, DecidableEq, Inhabited

variable {S : Type} [Scalar S]

/-- The parameters at which a hit may be reported. -/
def InRange (lambda bound : S) : Prop := 0 < lambda ∧ lambda < bound

/-- Being in range is decidable. -/
instance instDecidableInRange (lambda bound : S) : Decidable (InRange lambda bound) :=
  inferInstanceAs (Decidable (0 < lambda ∧ lambda < bound))

end RayTracer
