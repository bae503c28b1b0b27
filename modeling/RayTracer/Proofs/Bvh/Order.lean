import RayTracer.Proofs.Box.Area
import RayTracer.Proofs.Bvh.Bounds

/-!
# Items in order

The items of a range are sorted by the heights of their centres, and items at the same
height by their indices. In exact arithmetic this order is total and transitive on all
items (`Item.instTransCmpOrder`), and only items with the same index are equal in it.
So a range of distinct triangles has a single sorted order along every axis
(`sortAlong_eq_of_perm`, `OrderedAlong.unique`): it does not matter in which order the
range was given, nor along which axes it has been sorted before.
-/

set_option autoImplicit false

namespace RayTracer

namespace Exact

/-- The number that a scalar is, and zero when it is not one. -/
def amount : Exact → ℝ
  | .real value => value
  | _ => 0

/-- Scalars are compared by their ranks, and numbers by their size. -/
theorem totalCompare_eq (first second : Exact) :
    Exact.totalCompare first second =
      (compare first.rank second.rank).then (compare first.amount second.amount) := by
  cases first <;> cases second <;> simp [Exact.totalCompare, rank, amount] <;> rfl

end Exact

namespace Bvh

open Exact

namespace Item

/-- The comparison of items along an axis: by rank and size of a component of their
centres, then by index. -/
noncomputable def order (axis : Axis) : Item Exact → Item Exact → Ordering :=
  compareLex
    (compareLex (compareOn fun item => (item.centre.get axis).rank)
      (compareOn fun item => (item.centre.get axis).amount))
    (compareOn Item.index)

instance instTransCmpOrder (axis : Axis) : Std.TransCmp (order axis) :=
  inferInstanceAs (Std.TransCmp (compareLex _ _))

theorem precedes_eq_isLE_order (axis : Axis) (first second : Item Exact) :
    Item.precedes axis first second = (order axis first second).isLE := by
  change ((Exact.totalCompare _ _).then _).isLE = _
  rw [totalCompare_eq]
  rfl

theorem precedes_trans (axis : Axis) (first second third : Item Exact)
    (earlier : Item.precedes axis first second = true)
    (later : Item.precedes axis second third = true) :
    Item.precedes axis first third = true := by
  rw [precedes_eq_isLE_order] at *
  exact Std.TransCmp.isLE_trans earlier later

theorem precedes_total (axis : Axis) (first second : Item Exact) :
    (Item.precedes axis first second || Item.precedes axis second first) = true := by
  have swapped : order axis second first = (order axis first second).swap :=
    Std.OrientedCmp.eq_swap
  rw [precedes_eq_isLE_order, precedes_eq_isLE_order, swapped]
  cases order axis first second <;> rfl

/-- Items that precede each other have the same index. -/
theorem index_eq_of_precedes {axis : Axis} {first second : Item Exact}
    (above : Item.precedes axis first second = true)
    (below : Item.precedes axis second first = true) : first.index = second.index := by
  rw [precedes_eq_isLE_order] at above below
  have same := Std.OrientedCmp.isLE_antisymm above below
  exact Nat.compare_eq_eq.mp (Ordering.then_eq_eq.mp same).2

/-- An item comes before another one along an axis: its centre is lower, or the centres are
at the same height and its index is smaller. -/
def Before (axis : Axis) (first second : Item Exact) : Prop :=
  first.centre.get axis < second.centre.get axis ∨
    first.centre.get axis = second.centre.get axis ∧ first.index < second.index

theorem Before.asymm {axis : Axis} {first second : Item Exact} (before : first.Before axis second) :
    ¬second.Before axis first := by
  have irrefl (value : Exact) : ¬value < value := fun less => lt_irrefl _ (lt_iff.mp less).2.2
  obtain lower | ⟨same, smaller⟩ := before
  · rintro (higher | ⟨level, -⟩)
    · exact irrefl _ (Exact.lt_trans lower higher)
    · exact irrefl _ (level ▸ lower)
  · rintro (lower | ⟨-, larger⟩)
    · exact irrefl _ (same ▸ lower)
    · exact Nat.lt_asymm smaller larger

/-- Of two items with finite centres and different indices, the one that precedes the other
comes before it. -/
theorem before_of_precedes {axis : Axis} {first second : Item Exact}
    (firstFinite : first.centre.IsFinite) (secondFinite : second.centre.IsFinite)
    (different : first.index ≠ second.index)
    (precedes : Item.precedes axis first second = true) : first.Before axis second := by
  obtain ⟨firstCentre, isFirst⟩ := firstFinite
  obtain ⟨secondCentre, isSecond⟩ := secondFinite
  rw [Item.precedes, isFirst, isSecond, Vec3.get_ofReal, Vec3.get_ofReal] at precedes
  rw [Before, isFirst, isSecond, Vec3.get_ofReal, Vec3.get_ofReal, real_lt_real]
  change ((compare (firstCentre.get axis) (secondCentre.get axis)).then _).isLE = true at precedes
  obtain lower | same | higher := lt_trichotomy (firstCentre.get axis) (secondCentre.get axis)
  · exact .inl lower
  · rw [same, compare_eq_iff_eq.mpr rfl, Ordering.eq_then, Nat.isLE_compare] at precedes
    exact .inr ⟨congrArg real same, lt_of_le_of_ne precedes different⟩
  · rw [compare_gt_iff_gt.mpr higher] at precedes
    cases precedes

end Item

/-! ## Sorting -/

theorem sortAlong_pairwise (axis : Axis) (items : List (Item Exact)) :
    (sortAlong axis items).Pairwise fun first second =>
      Item.precedes axis first second = true :=
  List.pairwise_mergeSort (Item.precedes_trans axis) (Item.precedes_total axis) items

/-- **Items with distinct indices have a single sorted order.** -/
theorem sortAlong_eq_of_perm (axis : Axis) {first second : List (Item Exact)}
    (perm : first.Perm second) (distinct : (first.map Item.index).Nodup) :
    sortAlong axis first = sortAlong axis second := by
  have sameItems := (sortAlong_perm axis first).trans
    (perm.trans (sortAlong_perm axis second).symm)
  refine List.Perm.eq_of_pairwise ?_ (sortAlong_pairwise axis first)
    (sortAlong_pairwise axis second) sameItems
  intro one other isOne isOther above below
  exact List.inj_on_of_nodup_map distinct ((sortAlong_perm axis first).subset isOne)
    (perm.symm.subset ((sortAlong_perm axis second).subset isOther))
    (Item.index_eq_of_precedes above below)

/-- An order of some items along an axis: each comes before all that follow it. -/
def OrderedAlong (axis : Axis) (items sorted : List (Item Exact)) : Prop :=
  sorted.Perm items ∧ sorted.Pairwise (Item.Before axis)

/-- Items have one order along an axis only. -/
theorem OrderedAlong.unique {axis : Axis} {items first second : List (Item Exact)}
    (ordered : OrderedAlong axis items first) (other : OrderedAlong axis items second) :
    first = second := by
  refine List.Perm.eq_of_pairwise ?_ ordered.2 other.2 (ordered.1.trans other.1.symm)
  intro one another _ _ before after
  exact absurd after (Item.Before.asymm before)

/-! ## Ranges of triangles -/

/-- Items of distinct triangles whose boxes have finite corners, each with the middle of
its box. -/
structure IsRange (items : List (Item Exact)) : Prop where
  /-- No triangle occurs twice. -/
  distinct : (items.map Item.index).Nodup
  /-- The corners of every box are finite. -/
  finite : ∀ item ∈ items, item.box.IsFinite
  /-- Every item has the middle of its box. -/
  centred : ∀ item ∈ items, item.centre = item.box.centre

namespace IsRange

variable {items : List (Item Exact)} (range : IsRange items)
include range

theorem of_perm {other : List (Item Exact)} (perm : items.Perm other) : IsRange other where
  distinct := (perm.map Item.index).nodup_iff.mp range.distinct
  finite item member := range.finite item (perm.symm.subset member)
  centred item member := range.centred item (perm.symm.subset member)

theorem finite_centre {item : Item Exact} (member : item ∈ items) : item.centre.IsFinite := by
  obtain ⟨lower, upper, isBox⟩ := range.finite item member
  rw [range.centred item member, isBox]
  exact ⟨⟨0.5 * (lower.x + upper.x), 0.5 * (lower.y + upper.y), 0.5 * (lower.z + upper.z)⟩, rfl⟩

/-- Sorting along an axis orders the items along it. -/
theorem orderedAlong_sortAlong (axis : Axis) :
    OrderedAlong axis items (sortAlong axis items) := by
  have perm := sortAlong_perm axis items
  refine ⟨perm, ?_⟩
  have apart : (sortAlong axis items).Pairwise fun first second => first.index ≠ second.index :=
    List.pairwise_map.mp (range.of_perm perm.symm).distinct
  refine ((sortAlong_pairwise axis items).and apart).imp_of_mem ?_
  rintro first second isFirst isSecond ⟨precedes, different⟩
  exact Item.before_of_precedes (range.finite_centre (perm.subset isFirst))
    (range.finite_centre (perm.subset isSecond)) different precedes

end IsRange

end Bvh

end RayTracer
