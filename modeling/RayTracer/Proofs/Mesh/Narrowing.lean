import RayTracer.Proofs.Mesh.Agreement

/-!
# Searching a mesh with a smaller bound

A search for the nearest hit narrows when it answers the same with a smaller
bound as long as its hit is before that bound, and finds nothing otherwise
(`Narrows`). So a search may be given a bound that is already known to be good
enough, and nothing else about its answer changes.

The search among given triangles narrows: run side by side, the search with the
smaller bound is at every step the other one, cut off at that bound
(`Mesh.IsAnswer.cutOff_step`). For the candidates of a tree there is more to say,
as these depend on the bound. But a triangle that is not hit does not change a
search (`Mesh.IsAnswer.foldlM_filter`), and whether a triangle that is hit is a
candidate does not depend on the bound.
-/

set_option autoImplicit false

namespace RayTracer

open Exact

/-! ## Cutting off -/

section CutOff

variable {Hit : Type} {parameter : Hit → Exact} {bound smaller larger : Exact}

/-- A hit, if there is one before a bound. -/
noncomputable def cutOff (parameter : Hit → Exact) (bound : Exact) (found : Option Hit) :
    Option Hit :=
  found.filter fun hit => parameter hit < bound

theorem cutOff_of_lt {hit : Hit} (before : parameter hit < bound) :
    cutOff parameter bound (some hit) = some hit :=
  if_pos (decide_eq_true before)

theorem cutOff_of_not_lt {hit : Hit} (notBefore : ¬parameter hit < bound) :
    cutOff parameter bound (some hit) = none :=
  if_neg fun before => notBefore (of_decide_eq_true before)

theorem cutOff_map {Other : Type} (function : Other → Hit) (found : Option Other) :
    cutOff parameter bound (found.map function) =
      (cutOff (parameter ∘ function) bound found).map function := by
  rw [cutOff, Option.filter_map]
  rfl

/-- A search with a smaller bound finds what the search with the larger one
finds, cut off at the smaller bound. No search faults. -/
def Narrows (parameter : Hit → Exact) (search : Exact → Except OutOfRange (Option Hit)) : Prop :=
  ∀ larger, ∃ found, search larger = .ok found ∧
    ∀ smaller, smaller ≤ larger → search smaller = .ok (cutOff parameter smaller found)

theorem Narrows.eq_cutOff {search : Exact → Except OutOfRange (Option Hit)}
    (narrows : Narrows parameter search) {found : Option Hit} (searched : search larger = .ok found)
    (atMost : smaller ≤ larger) : search smaller = .ok (cutOff parameter smaller found) := by
  obtain ⟨result, isResult, narrow⟩ := narrows larger
  obtain rfl := Except.ok.inj (isResult.symm.trans searched)
  exact narrow smaller atMost

/-- What is in range up to a narrower bound. -/
theorem filter_inRange_of_iff {narrow wide : Exact}
    (iff : ∀ lambda, lambda < narrow ↔ lambda < smaller ∧ lambda < wide) (found : Option Hit) :
    (found.filter fun hit => InRange (parameter hit) narrow) =
      cutOff parameter smaller (found.filter fun hit => InRange (parameter hit) wide) := by
  rw [cutOff, Option.filter_filter]
  congr 1
  funext hit
  rw [← Bool.decide_and, decide_eq_decide, InRange, InRange, iff]
  constructor
  · rintro ⟨positive, before, below⟩
    exact ⟨⟨positive, below⟩, before⟩
  · rintro ⟨⟨positive, below⟩, before⟩
    exact ⟨positive, before, below⟩

/-- Looking for what is in range narrows. -/
theorem filter_inRange_of_le (atMost : smaller ≤ larger) (found : Option Hit) :
    (found.filter fun hit => InRange (parameter hit) smaller) =
      cutOff parameter smaller (found.filter fun hit => InRange (parameter hit) larger) := by
  refine filter_inRange_of_iff (fun lambda => ?_) found
  exact ⟨fun before => ⟨before, Exact.lt_of_lt_of_le before atMost⟩, fun before => before.1⟩

end CutOff

/-- The parameter of the nearest hit so far. -/
def Nearest.lambda (nearest : Nearest Exact) : Exact := nearest.hit.lambda

namespace Mesh

variable {mesh : Mesh Exact} {ray : Ray Exact} {smaller larger bound : Exact}

/-! ## Two searches side by side -/

/-- What the search with the smaller bound still looks for is what is before that
bound and what the other search still looks for as well. -/
theorem IsAnswer.lt_remainingBound_cutOff {seen : List Nat} {nearest : Option (Nearest Exact)}
    (isAnswer : mesh.IsAnswer ray larger seen nearest) (atMost : smaller ≤ larger)
    (lambda : Exact) :
    lambda < remainingBound smaller (cutOff Nearest.lambda smaller nearest) ↔
      lambda < smaller ∧ lambda < remainingBound larger nearest := by
  cases nearest with
  | none =>
    exact ⟨fun before => ⟨before, Exact.lt_of_lt_of_le before atMost⟩, fun before => before.1⟩
  | some nearest =>
    by_cases within : nearest.lambda < smaller
    · rw [cutOff_of_lt within]
      exact ⟨fun before => ⟨Exact.lt_trans before within, before⟩, fun before => before.2⟩
    · rw [cutOff_of_not_lt within]
      have defined : nearest.lambda.Defined := (Exact.lt_iff.mp isAnswer.2.inRange.2).1
      have beyond := (Exact.not_lt defined (Exact.le_iff.mp atMost).1).mp within
      exact ⟨fun before => ⟨before, Exact.lt_of_lt_of_le before beyond⟩, fun before => before.1⟩

/-- One step of two searches keeps the one with the smaller bound cut off there. -/
theorem IsAnswer.cutOff_step (indexed : mesh.Indexed) {seen : List Nat}
    {nearest next : Option (Nearest Exact)} (isAnswer : mesh.IsAnswer ray larger seen nearest)
    (atMost : smaller ≤ larger) {triangle : Nat} (inRange : triangle < mesh.faces.size)
    (stepped : mesh.closer ray larger nearest triangle = .ok next) :
    mesh.closer ray smaller (cutOff Nearest.lambda smaller nearest) triangle =
      .ok (cutOff Nearest.lambda smaller next) := by
  obtain ⟨corners, hasCorners⟩ := indexed.exists_corners inRange
  have wide := meet_of_corners hasCorners ray (remainingBound larger nearest)
  have narrow := meet_of_corners hasCorners ray
    (remainingBound smaller (cutOff Nearest.lambda smaller nearest))
  rw [Corners.meet, filter_inRange_of_iff (isAnswer.lt_remainingBound_cutOff atMost),
    ← Corners.meet] at narrow
  cases met : corners.meet ray (remainingBound larger nearest) with
  | none =>
    rw [met] at wide narrow
    rw [closer_of_miss wide] at stepped
    obtain rfl := Except.ok.inj stepped
    exact closer_of_miss narrow
  | some hit =>
    rw [met] at wide narrow
    rw [closer_of_hit wide] at stepped
    obtain rfl := Except.ok.inj stepped
    by_cases within : hit.lambda < smaller
    · rw [cutOff_of_lt within] at narrow
      rw [closer_of_hit narrow, cutOff_of_lt (show Nearest.lambda ⟨triangle, hit⟩ < _ from within)]
    · rw [cutOff_of_not_lt within] at narrow
      rw [closer_of_miss narrow,
        cutOff_of_not_lt (show ¬Nearest.lambda ⟨triangle, hit⟩ < _ from within)]
      -- The new hit is beyond the smaller bound, and the one it replaces was farther still.
      congr 1
      cases nearest with
      | none => rfl
      | some nearest =>
        have nearer := (Corners.meet_eq_some_iff.mp met).2.2
        exact cutOff_of_not_lt fun before => within (Exact.lt_trans nearer before)

theorem IsAnswer.cutOff_run (indexed : mesh.Indexed) {seen triangles : List Nat}
    {nearest result : Option (Nearest Exact)}
    (isAnswer : mesh.IsAnswer ray larger seen nearest) (atMost : smaller ≤ larger)
    (inRange : ∀ triangle ∈ triangles, triangle < mesh.faces.size)
    (ran : triangles.foldlM (mesh.closer ray larger) nearest = .ok result) :
    triangles.foldlM (mesh.closer ray smaller) (cutOff Nearest.lambda smaller nearest) =
      .ok (cutOff Nearest.lambda smaller result) := by
  induction triangles generalizing seen nearest with
  | nil => exact congrArg (Except.ok ∘ cutOff Nearest.lambda smaller) (Except.ok.inj ran)
  | cons triangle rest ih =>
    have triangleInRange := inRange triangle List.mem_cons_self
    obtain ⟨next, stepped, nextAnswer⟩ := isAnswer.step indexed triangleInRange
    rw [List.foldlM_cons, stepped] at ran
    rw [List.foldlM_cons, isAnswer.cutOff_step indexed atMost triangleInRange stepped]
    exact ih nextAnswer (fun other member => inRange other (List.mem_cons_of_mem _ member)) ran

/-- **A search among given triangles narrows.** The same triangle is nearest. -/
theorem narrows_nearestAmong (indexed : mesh.Indexed) (ray : Ray Exact) {triangles : List Nat}
    (inRange : ∀ triangle ∈ triangles, triangle < mesh.faces.size) :
    Narrows Nearest.lambda fun bound => mesh.nearestAmong ray bound triangles := by
  intro larger
  have start : mesh.IsAnswer ray larger [] none := isAnswer_nil
  obtain ⟨result, searched, -⟩ := start.run indexed inRange
  exact ⟨result, searched, fun smaller atMost => start.cutOff_run indexed atMost inRange searched⟩

/-- **The nearest hit on given triangles narrows.** -/
theorem narrows_closestAmong (indexed : mesh.Indexed) (ray : Ray Exact) {triangles : List Nat}
    (inRange : ∀ triangle ∈ triangles, triangle < mesh.faces.size) :
    Narrows SurfaceHit.lambda fun bound => mesh.closestAmong ray bound triangles := by
  intro larger
  have start : mesh.IsAnswer ray larger [] none := isAnswer_nil
  obtain ⟨result, searched, isAnswer⟩ := start.run indexed inRange
  have narrow (smaller : Exact) (atMost : smaller ≤ larger) :
      mesh.nearestAmong ray smaller triangles = .ok (cutOff Nearest.lambda smaller result) :=
    (narrows_nearestAmong indexed ray inRange).eq_cutOff searched atMost
  cases result with
  | none =>
    exact ⟨none, closestAmong_of_none searched, fun smaller atMost =>
      closestAmong_of_none (narrow smaller atMost)⟩
  | some nearest =>
    obtain ⟨surface, isSurface, sameLambda⟩ :=
      indexed.exists_surfaceHit isAnswer.2.lt_size nearest.hit
    refine ⟨some surface, closestAmong_of_some searched isSurface, fun smaller atMost => ?_⟩
    have narrowed := narrow smaller atMost
    have sameParameter : surface.lambda = nearest.lambda := sameLambda
    by_cases before : nearest.lambda < smaller
    · rw [cutOff_of_lt before] at narrowed
      rw [cutOff_of_lt (sameParameter ▸ before)]
      exact closestAmong_of_some narrowed isSurface
    · rw [cutOff_of_not_lt before] at narrowed
      rw [cutOff_of_not_lt (sameParameter ▸ before)]
      exact closestAmong_of_none narrowed

/-! ## Triangles that are not hit -/

/-- Leaving out triangles that are not hit does not change a search. -/
theorem IsAnswer.foldlM_filter (indexed : mesh.Indexed) {keep : Nat → Bool}
    {seen triangles : List Nat} {nearest : Option (Nearest Exact)}
    (isAnswer : mesh.IsAnswer ray bound seen nearest)
    (inRange : ∀ triangle ∈ triangles, triangle < mesh.faces.size)
    (complete : ∀ triangle ∈ triangles, ∀ hit, mesh.Hits ray bound triangle hit →
      keep triangle = true) :
    (triangles.filter keep).foldlM (mesh.closer ray bound) nearest =
      triangles.foldlM (mesh.closer ray bound) nearest := by
  induction triangles generalizing seen nearest with
  | nil => rfl
  | cons triangle rest ih =>
    have triangleInRange := inRange triangle List.mem_cons_self
    obtain ⟨next, stepped, nextAnswer⟩ := isAnswer.step indexed triangleInRange
    have later := ih nextAnswer
      (fun other member => inRange other (List.mem_cons_of_mem _ member))
      (fun other member => complete other (List.mem_cons_of_mem _ member))
    rw [List.foldlM_cons, stepped]
    cases kept : keep triangle with
    | true =>
      rw [List.filter_cons_of_pos kept, List.foldlM_cons, stepped]
      exact later
    | false =>
      rw [List.filter_cons_of_neg (Bool.eq_false_iff.mp kept)]
      obtain ⟨result, met⟩ := indexed.exists_meet triangleInRange ray (remainingBound bound nearest)
      cases result with
      | some hit =>
        have keeps := complete triangle List.mem_cons_self hit (isAnswer.hits met)
        cases keeps.symm.trans kept
      | none =>
        obtain rfl := Except.ok.inj ((closer_of_miss met).symm.trans stepped)
        exact later

/-- Two choices among groups give the same members when they differ only in empty groups. -/
theorem flatMap_filter_congr {Group Member : Type} {groups : List Group}
    {members : Group → List Member} {first second : Group → Bool}
    (same : ∀ group ∈ groups, members group = [] ∨ first group = second group) :
    (groups.filter first).flatMap members = (groups.filter second).flatMap members := by
  induction groups with
  | nil => rfl
  | cons group rest ih =>
    have later := ih fun other member => same other (List.mem_cons_of_mem _ member)
    obtain empty | equal := same group List.mem_cons_self
    · have skip (chosen : Group → Bool) :
          ((group :: rest).filter chosen).flatMap members =
            (rest.filter chosen).flatMap members := by
        rw [List.filter_cons]
        split
        · rw [List.flatMap_cons, empty, List.nil_append]
        · rfl
      rw [skip, skip, later]
    · simp only [List.filter_cons, equal]
      split
      · rw [List.flatMap_cons, List.flatMap_cons, later]
      · exact later

/-- A search does not depend on which groups without a hit are left out. -/
theorem nearestAmong_congr (indexed : mesh.Indexed) {Group : Type} {groups : List Group}
    {members : Group → List Nat}
    (inRange : ∀ group ∈ groups, ∀ triangle ∈ members group, triangle < mesh.faces.size)
    {first second : Group → Bool}
    (same : ∀ group ∈ groups, ∀ triangle ∈ members group, ∀ hit,
      mesh.Hits ray bound triangle hit → first group = second group) :
    mesh.nearestAmong ray bound ((groups.filter first).flatMap members) =
      mesh.nearestAmong ray bound ((groups.filter second).flatMap members) := by
  classical
  have start : mesh.IsAnswer ray bound [] none := isAnswer_nil
  -- Both choices are compared through the triangles of theirs that are hit.
  let keep (triangle : Nat) : Bool := decide (∃ hit, mesh.Hits ray bound triangle hit)
  have filtered (chosen : Group → Bool) :
      mesh.nearestAmong ray bound (((groups.filter chosen).flatMap members).filter keep) =
        mesh.nearestAmong ray bound ((groups.filter chosen).flatMap members) := by
    refine start.foldlM_filter indexed ?_ fun triangle _ hit isHit =>
      decide_eq_true ⟨hit, isHit⟩
    intro triangle member
    obtain ⟨group, isChosen, holds⟩ := List.mem_flatMap.mp member
    exact inRange group (List.mem_of_mem_filter isChosen) triangle holds
  rw [← filtered first, ← filtered second]
  congr 1
  rw [List.filter_flatMap, List.filter_flatMap]
  refine flatMap_filter_congr fun group member => ?_
  cases kept : (members group).filter keep with
  | nil => exact .inl rfl
  | cons triangle rest =>
    have isKept : triangle ∈ (members group).filter keep := kept ▸ List.mem_cons_self
    obtain ⟨holds, keeps⟩ := List.mem_filter.mp isKept
    obtain ⟨hit, isHit⟩ := of_decide_eq_true keeps
    exact .inr (same group member triangle holds hit isHit)

end Mesh

end RayTracer
