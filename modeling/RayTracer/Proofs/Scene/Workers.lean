import RayTracer.Proofs.Scene.Effects

/-!
# Workers on the rows of a picture

Every row is a list of effects on the shared state. A step takes the next effect
of any row, whichever worker holds that row; of the events of a pixel it may count
a part only, so that counting one event at a time is a schedule as well
(`Workers.Step`). Advancing a counter and writing a pixel are atomic, and workers
share nothing else. The steps of a schedule are recorded in a log.

Whatever the schedule and wherever it stops, what has been performed and what is
left make up what there was to do (`Workers.Runs.perm`, `Workers.Runs.total_eq`),
and the shared state is what the log makes of it (`Workers.Runs.canvas_eq`).
-/

set_option autoImplicit false

namespace RayTracer

/-! ## Schedules -/

/-- The shared state, and what is left to do of every row. -/
structure Workers where
  /-- The shared state. -/
  canvas : Canvas
  /-- The effects that are left of every row. -/
  rows : List (List Effect)

namespace Workers

/-- The effects that are left, row after row. -/
def pending (workers : Workers) : List Effect := workers.rows.flatten

/-- One step: a worker performs the next effect of a row, or counts some of the
events of a pixel and leaves the others. -/
inductive Step : Workers → Effect → Workers → Prop
  | perform (canvas : Canvas) (above below : List (List Effect)) (effect : Effect)
      (rest : List Effect) :
      Step ⟨canvas, above ++ (effect :: rest) :: below⟩ effect
        ⟨canvas.apply effect, above ++ rest :: below⟩
  | part (canvas : Canvas) (above below : List (List Effect)) (counted others : Tally)
      (rest : List Effect) :
      Step ⟨canvas, above ++ (.count (counted + others) :: rest) :: below⟩ (.count counted)
        ⟨canvas.apply (.count counted), above ++ (.count others :: rest) :: below⟩

/-- Any number of steps, with the log of what they perform. -/
inductive Runs : Workers → List Effect → Workers → Prop
  | done (workers : Workers) : Runs workers [] workers
  | step {before between after : Workers} {effect : Effect} {log : List Effect}
      (first : Step before effect between) (rest : Runs between log after) :
      Runs before (effect :: log) after

/-! ## What one step keeps -/

section Step

variable {before after : Workers} {effect : Effect}

theorem Step.canvas_eq (step : Step before effect after) :
    after.canvas = before.canvas.apply effect := by
  cases step <;> rfl

/-- A step takes its effect away from what is left, and nothing else. -/
theorem Step.perm (step : Step before effect after) :
    (before.pending.filter Effect.indivisible).Perm
      ((effect :: after.pending).filter Effect.indivisible) := by
  cases step with
  | perform canvas above below effect rest =>
    refine List.Perm.filter _ ?_
    simp only [pending, List.flatten_append, List.flatten_cons, List.cons_append]
    exact List.perm_middle
  | part canvas above below counted others rest =>
    simp only [pending, List.flatten_append, List.flatten_cons, List.filter_append,
      List.filter_cons, Effect.indivisible]
    exact List.Perm.refl _

/-- The events that a step counts and those that are left are those that were left before. -/
theorem Step.total_eq (step : Step before effect after) :
    Effect.total before.pending = effect.tally + Effect.total after.pending := by
  cases step with
  | perform canvas above below effect rest =>
    simp only [pending, List.flatten_append, List.flatten_cons, Effect.total_append,
      Effect.total_cons, add_assoc]
    exact add_left_comm _ _ _
  | part canvas above below counted others rest =>
    simp only [pending, List.flatten_append, List.flatten_cons, Effect.total_append,
      Effect.total_cons, Effect.tally, add_assoc]
    exact add_left_comm _ _ _

end Step

/-! ## What a schedule keeps -/

section Runs

variable {before after : Workers} {log : List Effect}

theorem Runs.canvas_eq (runs : Runs before log after) :
    after.canvas = log.foldl Canvas.apply before.canvas := by
  induction runs with
  | done workers => rfl
  | step first rest ih => rw [ih, first.canvas_eq, List.foldl_cons]

/-- **What a schedule has performed and what is left are what there was to do**,
but for counting. -/
theorem Runs.perm (runs : Runs before log after) :
    (before.pending.filter Effect.indivisible).Perm
      ((log ++ after.pending).filter Effect.indivisible) := by
  induction runs with
  | done workers => exact List.Perm.refl _
  | @step before between after effect log first rest ih =>
    refine first.perm.trans ?_
    simp only [List.cons_append, List.filter_cons]
    split
    · exact ih.cons _
    · exact ih

/-- **The events that a schedule has counted and those that are left are those
that there were to count.** -/
theorem Runs.total_eq (runs : Runs before log after) :
    Effect.total before.pending = Effect.total log + Effect.total after.pending := by
  induction runs with
  | done workers => exact (zero_add _).symm
  | step first rest ih => rw [first.total_eq, ih, Effect.total_cons, add_assoc]

end Runs

/-! ## Complete schedules -/

/-- Nothing is left to do. -/
def Finished (workers : Workers) : Prop := ∀ row ∈ workers.rows, row = []

section Finished

variable {before after : Workers} {log : List Effect} (runs : Runs before log after)
  (finished : after.Finished)
include runs finished

/-- A complete schedule performs what there was to do, but for counting. -/
theorem Runs.perm_of_finished :
    (log.filter Effect.indivisible).Perm (before.pending.filter Effect.indivisible) := by
  have performed := runs.perm
  rw [pending.eq_1 after, List.flatten_eq_nil_iff.mpr finished, List.append_nil] at performed
  exact performed.symm

theorem Runs.total_of_finished : Effect.total log = Effect.total before.pending := by
  have counted := runs.total_eq
  rw [pending.eq_1 after, List.flatten_eq_nil_iff.mpr finished] at counted
  exact (counted.trans (add_zero _)).symm

end Finished

theorem Runs.trans {first second third : Workers} {log later : List Effect}
    (runs : Runs first log second) (continues : Runs second later third) :
    Runs first (log ++ later) third := by
  induction runs with
  | done workers => exact continues
  | step step rest ih => exact .step step (ih continues)

theorem runs_row (canvas : Canvas) (above below : List (List Effect)) (row : List Effect) :
    Runs ⟨canvas, above ++ row :: below⟩ row
      ⟨row.foldl Canvas.apply canvas, above ++ [] :: below⟩ := by
  induction row generalizing canvas with
  | nil => exact .done _
  | cons effect rest ih => exact .step (.perform canvas above below effect rest) (ih _)

/-- The rows may be worked on one after the other. -/
theorem runs_flatten (canvas : Canvas) (rows : List (List Effect)) :
    Runs ⟨canvas, rows⟩ rows.flatten
      ⟨rows.flatten.foldl Canvas.apply canvas, rows.map fun _ => []⟩ := by
  -- Rows that are finished stay in their places, so there are some above the rest.
  have fromRow (above : List (List Effect)) :
      Runs ⟨canvas, above ++ rows⟩ rows.flatten
        ⟨rows.flatten.foldl Canvas.apply canvas, above ++ rows.map fun _ => []⟩ := by
    induction rows generalizing canvas above with
    | nil => exact .done _
    | cons row rest ih =>
      rw [List.flatten_cons, List.foldl_append]
      refine (runs_row canvas above rest row).trans ?_
      have later := ih (row.foldl Canvas.apply canvas) (above ++ [[]])
      rwa [← List.append_cons, ← List.append_cons] at later
  exact fromRow []

end Workers

end RayTracer
