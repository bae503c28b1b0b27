import RayTracer.Proofs.Mesh.Nearest

/-!
# The two searches of a mesh agree

A search for the nearest triangle takes the parameter of the nearest hit so far
for its bound and goes on; a search for any hit keeps the bound and stops at the
first. What a search for the nearest has found is a hit before the whole bound as
well, and a triangle that is not hit before the whole bound is not hit before a
smaller one (`Mesh.IsAnswer.step`). So both searches find something or neither
does (`Mesh.agree_among`).

Only transitivity of the order is needed of the scalars, so this holds of floating
point numbers whatever the values are.
-/

set_option autoImplicit false

namespace RayTracer

variable {S : Type} [Scalar S]

/-- A query for whether there is a hit answers as the query for the nearest one
does, and the nearest hit is in range. -/
def Agree {Hit : Type} (parameter : Hit → S) (bound : S)
    (nearest : Except OutOfRange (Option Hit)) (any : Except OutOfRange Bool) : Prop :=
  ∃ found : Option Hit, nearest = .ok found ∧ any = .ok found.isSome ∧
    ∀ hit, found = some hit → InRange (parameter hit) bound

/-- A hit before the parameter of a hit in range is in range. -/
theorem InRange.trans [IsTrans S (· < ·)] {first second bound : S} (earlier : InRange first second)
    (later : InRange second bound) : InRange first bound :=
  ⟨earlier.1, trans_of (· < ·) earlier.2 later.2⟩

namespace Mesh

/-- What a search among some triangles may answer: nothing when none of them is
hit, and otherwise a hit on one of them. -/
def IsAnswer (mesh : Mesh S) (ray : Ray S) (bound : S) (triangles : List Nat) :
    Option (Nearest S) → Prop
  | none => ∀ triangle ∈ triangles, ∀ hit, ¬mesh.Hits ray bound triangle hit
  | some nearest => nearest.triangle ∈ triangles ∧
      mesh.Hits ray bound nearest.triangle nearest.hit

variable {mesh : Mesh S} {ray : Ray S} {bound : S}

theorem isAnswer_nil : mesh.IsAnswer ray bound [] none := fun _ member => nomatch member

theorem closer_of_hit {nearest : Option (Nearest S)} {triangle : Nat} {hit : TriangleHit S}
    (isHit : mesh.Hits ray (remainingBound bound nearest) triangle hit) :
    mesh.closer ray bound nearest triangle = .ok (some ⟨triangle, hit⟩) := by
  rw [closer, isHit]
  rfl

theorem closer_of_miss {nearest : Option (Nearest S)} {triangle : Nat}
    (missed : mesh.meet triangle ray (remainingBound bound nearest) = .ok none) :
    mesh.closer ray bound nearest triangle = .ok nearest := by
  rw [closer, missed]
  rfl

variable [IsTrans S (· < ·)]

/-- A hit before the remaining bound is a hit before the whole bound. -/
theorem IsAnswer.hits {seen : List Nat} {nearest : Option (Nearest S)}
    (isAnswer : mesh.IsAnswer ray bound seen nearest) {triangle : Nat} {hit : TriangleHit S}
    (isHit : mesh.Hits ray (remainingBound bound nearest) triangle hit) :
    mesh.Hits ray bound triangle hit := by
  cases nearest with
  | none => exact isHit
  | some nearest => exact isHit.of_inRange (isHit.inRange.trans isAnswer.2.inRange)

/-- One step of a search keeps an answer for the triangles seen so far. -/
theorem IsAnswer.step (indexed : mesh.Indexed) {seen : List Nat} {nearest : Option (Nearest S)}
    (isAnswer : mesh.IsAnswer ray bound seen nearest) {triangle : Nat}
    (inRange : triangle < mesh.faces.size) :
    ∃ next, mesh.closer ray bound nearest triangle = .ok next ∧
      mesh.IsAnswer ray bound (seen ++ [triangle]) next := by
  obtain ⟨result, met⟩ := indexed.exists_meet inRange ray (remainingBound bound nearest)
  cases result with
  | some hit =>
    exact ⟨some ⟨triangle, hit⟩, closer_of_hit met, List.mem_append_right _ List.mem_cons_self,
      isAnswer.hits met⟩
  | none =>
    refine ⟨nearest, closer_of_miss met, ?_⟩
    cases nearest with
    | none =>
      intro other member hit isHit
      obtain member | member := List.mem_append.mp member
      · exact isAnswer other member hit isHit
      · obtain rfl := List.mem_singleton.mp member
        cases met.symm.trans isHit
    -- A hit is known already, so a miss before the smaller bound says nothing.
    | some nearest => exact ⟨List.mem_append_left _ isAnswer.1, isAnswer.2⟩

theorem IsAnswer.run (indexed : mesh.Indexed) {seen triangles : List Nat}
    {nearest : Option (Nearest S)} (isAnswer : mesh.IsAnswer ray bound seen nearest)
    (inRange : ∀ triangle ∈ triangles, triangle < mesh.faces.size) :
    ∃ result, triangles.foldlM (mesh.closer ray bound) nearest = .ok result ∧
      mesh.IsAnswer ray bound (seen ++ triangles) result := by
  induction triangles generalizing seen nearest with
  | nil => exact ⟨nearest, rfl, (List.append_nil seen).symm ▸ isAnswer⟩
  | cons triangle rest ih =>
    obtain ⟨next, stepped, nextAnswer⟩ :=
      isAnswer.step indexed (inRange triangle List.mem_cons_self)
    obtain ⟨result, ran, resultAnswer⟩ :=
      ih nextAnswer fun other member => inRange other (List.mem_cons_of_mem _ member)
    refine ⟨result, ?_, by rwa [List.append_assoc] at resultAnswer⟩
    rw [List.foldlM_cons, stepped]
    exact ran

/-- **The two searches among some triangles of a mesh agree.** -/
theorem agree_among (indexed : mesh.Indexed) (ray : Ray S) (bound : S) {triangles : List Nat}
    (inRange : ∀ triangle ∈ triangles, triangle < mesh.faces.size) :
    Agree SurfaceHit.lambda bound (mesh.closestAmong ray bound triangles)
      (mesh.anyAmong ray bound triangles) := by
  have start : mesh.IsAnswer ray bound [] none := isAnswer_nil
  obtain ⟨result, searched, isAnswer⟩ := start.run indexed inRange
  obtain ⟨answer, answered, correct⟩ := exists_anyAmong indexed ray bound inRange
  rw [answered, closestAmong, nearestAmong, searched]
  cases result with
  | none =>
    have missed : answer = false := by
      refine Bool.eq_false_iff.mpr fun hits => ?_
      obtain ⟨triangle, member, hit, isHit⟩ := correct.mp hits
      exact isAnswer triangle member hit isHit
    refine ⟨none, rfl, congrArg Except.ok missed, ?_⟩
    intro hit absent
    cases absent
  | some nearest =>
    obtain ⟨member, isHit⟩ := isAnswer
    obtain ⟨surface, isSurface, sameLambda⟩ := indexed.exists_surfaceHit isHit.lt_size nearest.hit
    refine ⟨some surface, ?_, congrArg Except.ok (correct.mpr ⟨_, member, _, isHit⟩), ?_⟩
    · exact congrArg (· >>= fun surface => pure (some surface)) isSurface
    · intro hit same
      obtain rfl := Option.some.inj same
      exact sameLambda ▸ isHit.inRange

end Mesh

end RayTracer
