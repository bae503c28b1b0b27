import RayTracer.Proofs.Image
import RayTracer.Scene.Render
import Mathlib.Algebra.BigOperators.Group.List.Basic

/-!
# Effects on the shared state

What a log of effects makes of the picture and the counters that workers share.
Only three things matter. The counters advance by the events that are counted, in
whatever portions (`Canvas.counters_foldl`). A pixel that is written with one value
only has that value afterwards (`Canvas.getElem?_foldl`), whatever else is written.
And there is a fault exactly when an effect fails or writes outside the picture
(`Canvas.fault_foldl_eq_none_iff`).
-/

set_option autoImplicit false

namespace RayTracer

/-! ## Events -/

/-- Numbers of events are added up in any order. -/
instance Tally.instAddCommMonoid : AddCommMonoid Tally where
  add_assoc _ _ _ := Tally.ext (Nat.add_assoc _ _ _) (Nat.add_assoc _ _ _)
  zero_add _ := Tally.ext (Nat.zero_add _) (Nat.zero_add _)
  add_zero _ := Tally.ext (Nat.add_zero _) (Nat.add_zero _)
  add_comm _ _ := Tally.ext (Nat.add_comm _ _) (Nat.add_comm _ _)
  nsmul := nsmulRec

/-- The number of rays that met a renderable is added up with the events. -/
def Tally.intersectionsHom : Tally →+ ℕ := ⟨⟨Tally.intersections, rfl⟩, fun _ _ => rfl⟩

/-- The number of lights that reached a surface is added up with the events. -/
def Tally.shadingsHom : Tally →+ ℕ := ⟨⟨Tally.shadings, rfl⟩, fun _ _ => rfl⟩

namespace Counters

theorem advance_zero (counters : Counters) : counters.advance 0 = counters :=
  Counters.ext (UInt64.add_zero _) (UInt64.add_zero _)

theorem advance_add (counters : Counters) (first second : Tally) :
    counters.advance (first + second) = (counters.advance first).advance second := by
  refine Counters.ext ?_ ?_
  · exact (congrArg _ (UInt64.ofNat_add _ _)).trans (UInt64.add_assoc _ _ _).symm
  · exact (congrArg _ (UInt64.ofNat_add _ _)).trans (UInt64.add_assoc _ _ _).symm

theorem toNat_intersections_advance_zero (tally : Tally) :
    (zero.advance tally).intersections.toNat = tally.intersections % 2 ^ 64 :=
  (congrArg UInt64.toNat (UInt64.zero_add _)).trans UInt64.toNat_ofNat'

theorem toNat_shadings_advance_zero (tally : Tally) :
    (zero.advance tally).shadings.toNat = tally.shadings % 2 ^ 64 :=
  (congrArg UInt64.toNat (UInt64.zero_add _)).trans UInt64.toNat_ofNat'

end Counters

/-! ## Effects -/

namespace Effect

/-- The events that an effect counts. -/
def tally : Effect → Tally
  | .count tally => tally
  | _ => 0

/-- The events that some effects count. -/
def total (effects : List Effect) : Tally := (effects.map tally).sum

/-- An effect that is performed in one step: all but counting are. -/
def indivisible : Effect → Bool
  | .count _ => false
  | _ => true

/-- The index of the pixel that an effect writes. -/
def target : Effect → Option Nat
  | .write index _ => some index
  | _ => none

theorem target_eq_some_iff {effect : Effect} {index : Nat} :
    effect.target = some index ↔ ∃ pixel, effect = .write index pixel := by
  cases effect <;> simp [target]

theorem total_cons (effect : Effect) (rest : List Effect) :
    total (effect :: rest) = effect.tally + total rest :=
  List.sum_cons

theorem total_append (first second : List Effect) :
    total (first ++ second) = total first + total second := by
  rw [total, List.map_append, List.sum_append]
  rfl

theorem total_flatMap {Item : Type} (items : List Item) (effects : Item → List Effect) :
    total (items.flatMap effects) = (items.map fun item => total (effects item)).sum := by
  induction items with
  | nil => rfl
  | cons item rest ih => rw [List.flatMap_cons, total_append, ih, List.map_cons, List.sum_cons]

/-- Writing and failing are not affected by dropping the effects that count. -/
theorem filterMap_target_filter (effects : List Effect) :
    (effects.filter indivisible).filterMap target = effects.filterMap target := by
  rw [List.filterMap_filter]
  refine List.filterMap_congr fun effect _ => ?_
  cases effect <;> rfl

/-! ## Up to a fault -/

theorem untilFault_sublist (effects : List Effect) : (untilFault effects).Sublist effects := by
  induction effects with
  | nil => exact List.Sublist.slnil
  | cons effect rest ih =>
    cases effect with
    | fail fault => exact (List.nil_sublist rest).cons_cons _
    | count tally => exact ih.cons_cons _
    | write index pixel => exact ih.cons_cons _

/-- A row that does not fault is worked on to its end. -/
theorem untilFault_eq_self {effects : List Effect} (noFault : ∀ fault, .fail fault ∉ effects) :
    untilFault effects = effects := by
  induction effects with
  | nil => rfl
  | cons effect rest ih =>
    have later := ih fun fault member => noFault fault (List.mem_cons_of_mem _ member)
    cases effect with
    | fail fault => exact absurd List.mem_cons_self (noFault fault)
    | count tally => exact congrArg _ later
    | write index pixel => exact congrArg _ later

/-- Giving up a row at a fault does not hide that there is one. -/
theorem exists_fail_mem_untilFault {effects : List Effect} {fault : OutOfRange}
    (member : .fail fault ∈ effects) : ∃ first, .fail first ∈ untilFault effects := by
  induction effects with
  | nil => cases member
  | cons effect rest ih =>
    cases effect with
    | fail first => exact ⟨first, List.mem_cons_self⟩
    | count tally =>
      obtain ⟨first, isFirst⟩ := ih ((List.mem_cons.mp member).resolve_left Effect.noConfusion)
      exact ⟨first, List.mem_cons_of_mem _ isFirst⟩
    | write index pixel =>
      obtain ⟨first, isFirst⟩ := ih ((List.mem_cons.mp member).resolve_left Effect.noConfusion)
      exact ⟨first, List.mem_cons_of_mem _ isFirst⟩

end Effect

/-! ## What a log makes of the shared state -/

namespace Canvas

/-- Writing replaces the pixel at an index, and none when the index is not in the picture. -/
theorem image_apply_write (canvas : Canvas) (index : Nat) (pixel : Pixel) :
    (canvas.apply (.write index pixel)).image =
      { canvas.image with pixels := canvas.image.pixels.setIfInBounds index pixel } := by
  by_cases inside : index < canvas.image.pixels.size
  · rw [apply, Image.put, if_pos inside]
  · rw [apply, Image.put, if_neg inside,
      Array.setIfInBounds_eq_of_size_le (Nat.le_of_not_lt inside)]

theorem counters_apply (canvas : Canvas) (effect : Effect) :
    (canvas.apply effect).counters = canvas.counters.advance effect.tally := by
  cases effect with
  | count tally => rfl
  | fail fault => exact (Counters.advance_zero _).symm
  | write index pixel =>
    refine Eq.trans ?_ (Counters.advance_zero _).symm
    rw [apply]
    split <;> rfl

theorem counters_foldl (canvas : Canvas) (log : List Effect) :
    (log.foldl apply canvas).counters = canvas.counters.advance (Effect.total log) := by
  induction log generalizing canvas with
  | nil => exact (Counters.advance_zero _).symm
  | cons effect rest ih =>
    rw [List.foldl_cons, ih, counters_apply, Effect.total_cons, Counters.advance_add]

/-- An effect keeps the size of the picture. -/
theorem size_apply (canvas : Canvas) (effect : Effect) :
    (canvas.apply effect).image.size = canvas.image.size := by
  cases effect with
  | count tally => rfl
  | fail fault => rfl
  | write index pixel =>
    rw [image_apply_write]
    rfl

theorem size_foldl (canvas : Canvas) (log : List Effect) :
    (log.foldl apply canvas).image.size = canvas.image.size := by
  induction log generalizing canvas with
  | nil => rfl
  | cons effect rest ih => rw [List.foldl_cons, ih, size_apply]

/-- An effect keeps the number of pixels. -/
theorem size_pixels_apply (canvas : Canvas) (effect : Effect) :
    (canvas.apply effect).image.pixels.size = canvas.image.pixels.size := by
  cases effect with
  | count tally => rfl
  | fail fault => rfl
  | write index pixel => rw [image_apply_write, Array.size_setIfInBounds]

theorem size_pixels_foldl (canvas : Canvas) (log : List Effect) :
    (log.foldl apply canvas).image.pixels.size = canvas.image.pixels.size := by
  induction log generalizing canvas with
  | nil => rfl
  | cons effect rest ih => rw [List.foldl_cons, ih, size_pixels_apply]

/-- A full picture stays full. -/
theorem full_foldl {canvas : Canvas} (full : canvas.image.Full) (log : List Effect) :
    (log.foldl apply canvas).image.Full := by
  obtain ⟨sameWidth, sameHeight⟩ := ImageSize.ext_iff.mp (canvas.size_foldl log)
  calc (log.foldl apply canvas).image.pixels.size
    _ = canvas.image.pixels.size := canvas.size_pixels_foldl log
    _ = canvas.image.width * canvas.image.height := full
    _ = _ := (congrArg₂ (· * ·) sameWidth sameHeight).symm

theorem getElem?_apply_of_target_ne (canvas : Canvas) {effect : Effect} {index : Nat}
    (elsewhere : effect.target ≠ some index) :
    (canvas.apply effect).image.pixels[index]? = canvas.image.pixels[index]? := by
  cases effect with
  | count tally => rfl
  | fail fault => rfl
  | write target pixel =>
    have different : target ≠ index := fun same => elsewhere (congrArg some same)
    rw [image_apply_write, Array.getElem?_setIfInBounds_ne different]

theorem getElem?_apply_write (canvas : Canvas) {index : Nat} (pixel : Pixel)
    (inside : index < canvas.image.pixels.size) :
    (canvas.apply (.write index pixel)).image.pixels[index]? = some pixel := by
  rw [image_apply_write, Array.getElem?_setIfInBounds_self_of_lt inside]

/-- A pixel that a log writes with one value only has that value afterwards. -/
theorem getElem?_foldl {log : List Effect} {index : Nat} {pixel : Pixel} {canvas : Canvas}
    (inside : index < canvas.image.pixels.size)
    (unique : ∀ other, .write index other ∈ log → other = pixel)
    (present : canvas.image.pixels[index]? = some pixel ∨ .write index pixel ∈ log) :
    (log.foldl apply canvas).image.pixels[index]? = some pixel := by
  induction log generalizing canvas with
  | nil => exact present.resolve_right List.not_mem_nil
  | cons effect rest ih =>
    refine ih (canvas.size_pixels_apply effect ▸ inside)
      (fun other member => unique other (List.mem_cons_of_mem _ member)) ?_
    by_cases here : effect.target = some index
    · obtain ⟨other, rfl⟩ := Effect.target_eq_some_iff.mp here
      obtain rfl := unique other List.mem_cons_self
      exact .inl (canvas.getElem?_apply_write other inside)
    · rw [getElem?_apply_of_target_ne canvas here]
      refine present.imp_right fun member => ?_
      obtain rfl | member := List.mem_cons.mp member
      · exact absurd rfl here
      · exact member

theorem fault_apply_eq_none_iff (canvas : Canvas) (effect : Effect) :
    (canvas.apply effect).fault = none ↔
      canvas.fault = none ∧ (∀ fault, effect ≠ .fail fault) ∧
        ∀ index, effect.target = some index → index < canvas.image.pixels.size := by
  cases effect with
  | count tally => simp [apply, Effect.target]
  | fail fault => simp [apply]
  | write index pixel =>
    by_cases inside : index < canvas.image.pixels.size
    · simp [apply, Image.put, inside, Effect.target]
    · simp [apply, Image.put, inside, Effect.target]

/-- A fault is recorded exactly when an effect fails or writes outside the picture. -/
theorem fault_foldl_eq_none_iff (canvas : Canvas) (log : List Effect) :
    (log.foldl apply canvas).fault = none ↔
      canvas.fault = none ∧ (∀ fault, .fail fault ∉ log) ∧
        ∀ index ∈ log.filterMap Effect.target, index < canvas.image.pixels.size := by
  induction log generalizing canvas with
  | nil => simp
  | cons effect rest ih =>
    rw [List.foldl_cons, ih, fault_apply_eq_none_iff, size_pixels_apply]
    simp only [List.mem_cons, List.mem_filterMap]
    constructor
    · rintro ⟨⟨clear, notFail, inside⟩, noFail, restInside⟩
      refine ⟨clear, ?_, ?_⟩
      · rintro fault (rfl | member)
        · exact notFail fault rfl
        · exact noFail fault member
      · rintro index ⟨other, rfl | member, isTarget⟩
        · exact inside index isTarget
        · exact restInside index ⟨other, member, isTarget⟩
    · rintro ⟨clear, noFail, inside⟩
      refine ⟨⟨clear, ?_, ?_⟩, ?_, ?_⟩
      · exact fun fault same => noFail fault (.inl same.symm)
      · exact fun index isTarget => inside index ⟨effect, .inl rfl, isTarget⟩
      · exact fun fault member => noFail fault (.inr member)
      · exact fun index ⟨other, member, isTarget⟩ => inside index ⟨other, .inr member, isTarget⟩

end Canvas

end RayTracer
