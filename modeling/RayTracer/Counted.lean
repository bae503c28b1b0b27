import RayTracer.Hit

/-!
# Counted computations

Tracing rays counts two kinds of events: rays that meet a renderable, and
lights that reach a surface. A counted computation gives a result together with
the events that happened on the way. When it faults, the events before the
fault are still counted.
-/

set_option autoImplicit false

namespace RayTracer

/-- Numbers of events. -/
@[ext] structure Tally where
  /-- The number of rays that met a renderable. -/
  intersections : Nat
  /-- The number of lights that reached a surface. -/
  shadings : Nat
deriving Repr, DecidableEq, Inhabited

namespace Tally

/-- No events. -/
instance instZero : Zero Tally := ⟨⟨0, 0⟩⟩

/-- The events of two computations. -/
instance instAdd : Add Tally :=
  ⟨fun first second =>
    ⟨first.intersections + second.intersections, first.shadings + second.shadings⟩⟩

end Tally

/-- A computation that counts events and may fault. -/
@[ext] structure Counted (α : Type) where
  /-- The result. -/
  outcome : Except OutOfRange α
  /-- The events that happened. -/
  tally : Tally

namespace Counted

variable {α β : Type}

/-- A result without events. -/
@[inline] def pure (value : α) : Counted α := ⟨.ok value, 0⟩

/-- One computation after another. A fault ends the computation. -/
@[inline] def bind (first : Counted α) (next : α → Counted β) : Counted β :=
  match first.outcome with
  | .ok value =>
    let second := next value
    ⟨second.outcome, first.tally + second.tally⟩
  | .error fault => ⟨.error fault, first.tally⟩

/-- Counted computations form a monad. -/
@[inline] instance instMonad : Monad Counted where
  pure := Counted.pure
  bind := Counted.bind

/-- A computation without events that may fault. -/
@[inline] def uncounted (outcome : Except OutOfRange α) : Counted α := ⟨outcome, 0⟩

/-- Count a ray that met a renderable. -/
def intersection : Counted Unit := ⟨.ok (), ⟨1, 0⟩⟩

/-- Count a light that reached a surface. -/
def shading : Counted Unit := ⟨.ok (), ⟨0, 1⟩⟩

end Counted

/-- Event counters of a scene. They count modulo the range of a machine word. -/
@[ext] structure Counters where
  /-- Counts rays that met a renderable. -/
  intersections : UInt64
  /-- Counts lights that reached a surface. -/
  shadings : UInt64
deriving Repr, DecidableEq, Inhabited

namespace Counters

/-- Counters at zero. -/
def zero : Counters := ⟨0, 0⟩

/-- Advance the counters by the events of a computation. -/
def advance (counters : Counters) (tally : Tally) : Counters :=
  ⟨counters.intersections + UInt64.ofNat tally.intersections,
    counters.shadings + UInt64.ofNat tally.shadings⟩

end Counters

end RayTracer
