import RayTracer.Proofs.Image
import RayTracer.Proofs.Scene.Tracing
import RayTracer.Proofs.Scene.Workers
import Mathlib.Algebra.BigOperators.Intervals

/-!
# The picture that workers render

Whatever the schedule of the workers, they render the same picture: the pixel at a
column and a row from the top shows what the camera sees through that column and
the row counted from the bottom, every pixel is written once, and the counters
advance by the events of all pixels (`Scene.render_of_runs`). What the picture
held before and what was counted before make no difference.

The effects of the rows write the indices of the picture one after the other, and
none twice (`Scene.filterMap_target_pending`). That is all a schedule can change
the order of, as long as no pixel faults.
-/

set_option autoImplicit false

namespace RayTracer

namespace Scene

variable {S : Type} [Scalar S]

/-! ## The pixels -/

/-- What is computed for the pixel at a row from the top and a column. -/
def pixelAt (scene : Scene S) (camera : Camera S) (size : ImageSize) (greatestDepth row : Nat)
    (column : Nat) : Counted (Color S) :=
  scene.pixelColor camera column (size.height - 1 - row) greatestDepth

/-- No pixel of a picture faults, and no row is beyond its height. -/
def Clear (scene : Scene S) (camera : Camera S) (image : Image) (greatestDepth : Nat) : Prop :=
  ∀ row < image.rowCount, row < image.height ∧ ∀ column < (image.row row).size,
    (scene.pixelAt camera image.size greatestDepth row column).Succeeds

/-- In a full picture there is a pixel for every column and row, and none beyond. -/
theorem clear_iff_of_full {scene : Scene S} {camera : Camera S} {image : Image}
    {greatestDepth : Nat} (full : image.Full) : scene.Clear camera image greatestDepth ↔
      ∀ row < image.height, ∀ column < image.width,
        (scene.pixelAt camera image.size greatestDepth row column).Succeeds := by
  constructor
  · intro clear row inRow column inColumn
    obtain ⟨-, succeeds⟩ := clear row (full.lt_rowCount inRow inColumn)
    exact succeeds column (full.size_row inRow ▸ inColumn)
  · intro succeeds row inRange
    have inRow := full.lt_height inRange
    exact ⟨inRow, fun column inColumn => succeeds row inRow column (full.size_row inRow ▸ inColumn)⟩

/-- The events of all pixels of a picture. -/
def events (scene : Scene S) (camera : Camera S) (size : ImageSize) (greatestDepth : Nat) :
    Tally :=
  ∑ row ∈ Finset.range size.height, ∑ column ∈ Finset.range size.width,
    (scene.pixelAt camera size greatestDepth row column).tally

/-- The number of events of one kind of all pixels, in rows from the bottom. -/
theorem map_events (number : Tally →+ ℕ) (scene : Scene S) (camera : Camera S)
    (size : ImageSize) (greatestDepth : Nat) :
    number (scene.events camera size greatestDepth) =
      ∑ row ∈ Finset.range size.height, ∑ column ∈ Finset.range size.width,
        number (scene.pixelColor camera column row greatestDepth).tally := by
  simp only [events, map_sum]
  exact Finset.sum_range_reflect (fun row => ∑ column ∈ Finset.range size.width,
    number (scene.pixelColor camera column row greatestDepth).tally) size.height

variable [Single S]

/-! ## The rows -/

/-- The workers on the rows of a picture before the first step. -/
def workers (scene : Scene S) (camera : Camera S) (greatestDepth : Nat) (image : Image) :
    Workers :=
  ⟨⟨image, .zero, none⟩,
    (List.range image.rowCount).map (scene.rowEffects camera image greatestDepth)⟩

variable {scene : Scene S} {camera : Camera S} {greatestDepth : Nat} {image : Image}

/-- Rendering the rows one after the other is a complete schedule. -/
theorem runs_paint (scene : Scene S) (camera : Camera S) (greatestDepth : Nat) (image : Image) :
    ∃ log final, (scene.workers camera greatestDepth image).Runs log final ∧ final.Finished ∧
      final.canvas = scene.paint camera greatestDepth image := by
  refine ⟨_, _, Workers.runs_flatten _ _, ?_, ?_⟩
  · intro row member
    obtain ⟨_, -, rfl⟩ := List.mem_map.mp member
    rfl
  · exact List.foldl_flatMap ..

/-! ## The effects of all rows -/

theorem pixelEffects_of_ok {size : ImageSize} {row column : Nat} {color : Color S}
    (isColor : (scene.pixelAt camera size greatestDepth row column).outcome = .ok color) :
    scene.pixelEffects camera size greatestDepth row column =
      [.count (scene.pixelAt camera size greatestDepth row column).tally,
        .write (row * size.width + column) (.opaqueOf color)] := by
  rw [pixelAt] at isColor
  rw [pixelEffects, isColor]
  rfl

theorem pixelEffects_of_error {size : ImageSize} {row column : Nat} {fault : OutOfRange}
    (isFault : (scene.pixelAt camera size greatestDepth row column).outcome = .error fault) :
    scene.pixelEffects camera size greatestDepth row column =
      [.count (scene.pixelAt camera size greatestDepth row column).tally, .fail fault] := by
  rw [pixelAt] at isFault
  rw [pixelEffects, isFault]
  rfl

/-- The effects of a pixel do not fail exactly when it does not fault. -/
theorem noFail_pixelEffects_iff {size : ImageSize} {row column : Nat} :
    (∀ fault, .fail fault ∉ scene.pixelEffects camera size greatestDepth row column) ↔
      (scene.pixelAt camera size greatestDepth row column).Succeeds := by
  cases computed : (scene.pixelAt camera size greatestDepth row column).outcome with
  | ok color =>
    rw [pixelEffects_of_ok computed]
    exact iff_of_true (by simp) ⟨color, computed⟩
  | error fault =>
    rw [pixelEffects_of_error computed]
    refine iff_of_false (fun noFail => noFail fault (by simp)) ?_
    rintro ⟨color, isColor⟩
    cases computed.symm.trans isColor

/-- The effects of a row do not fail exactly when it is not beyond the height and none of its
pixels faults. -/
theorem noFail_rowEffects_iff {row : Nat} :
    (∀ fault, .fail fault ∉ scene.rowEffects camera image greatestDepth row) ↔
      row < image.height ∧ ∀ column < (image.row row).size,
        (scene.pixelAt camera image.size greatestDepth row column).Succeeds := by
  unfold rowEffects
  split
  · rename_i inHeight
    rw [and_iff_right inHeight]
    constructor
    · intro noFail column inColumns
      refine noFail_pixelEffects_iff.mp fun fault isEffect => ?_
      -- A row is given up at its first fault, which is a failure as well.
      obtain ⟨first, isFirst⟩ := Effect.exists_fail_mem_untilFault
        (List.mem_flatMap.mpr ⟨column, List.mem_range.mpr inColumns, isEffect⟩)
      exact noFail first isFirst
    · intro succeeds fault member
      obtain ⟨column, inColumns, isEffect⟩ :=
        List.mem_flatMap.mp ((Effect.untilFault_sublist _).subset member)
      exact noFail_pixelEffects_iff.mpr (succeeds column (List.mem_range.mp inColumns)) fault
        isEffect
  · rename_i beyond
    exact iff_of_false (fun noFail => noFail _ List.mem_cons_self) fun held => beyond held.1

theorem pending_workers (scene : Scene S) (camera : Camera S) (greatestDepth : Nat)
    (image : Image) :
    (scene.workers camera greatestDepth image).pending =
      (List.range image.rowCount).flatMap (scene.rowEffects camera image greatestDepth) :=
  rfl

/-- An effect of a row is one of its pixels, or the fault of a row beyond the height. -/
theorem mem_rowEffects_cases {row : Nat} {effect : Effect}
    (member : effect ∈ scene.rowEffects camera image greatestDepth row) :
    (row < image.height ∧ ∃ column < (image.row row).size,
      effect ∈ scene.pixelEffects camera image.size greatestDepth row column) ∨
    (¬row < image.height ∧ effect = .fail ⟨row, image.height⟩) := by
  unfold rowEffects at member
  split at member
  · rename_i inHeight
    obtain ⟨column, inRange, isEffect⟩ :=
      List.mem_flatMap.mp ((Effect.untilFault_sublist _).subset member)
    exact .inl ⟨inHeight, column, List.mem_range.mp inRange, isEffect⟩
  · rename_i beyond
    exact .inr ⟨beyond, List.mem_singleton.mp member⟩

/-- What is written anywhere is the colour of the pixel there. -/
theorem exists_color_of_write_mem_pending {index : Nat} {pixel : Pixel}
    (member : .write index pixel ∈ (scene.workers camera greatestDepth image).pending) :
    ∃ row < image.rowCount, ∃ column < (image.row row).size,
      index = row * image.width + column ∧
      ∃ color, (scene.pixelAt camera image.size greatestDepth row column).outcome = .ok color ∧
        pixel = .opaqueOf color := by
  rw [pending_workers] at member
  obtain ⟨row, inRange, inRow⟩ := List.mem_flatMap.mp member
  obtain ⟨-, column, inColumns, isEffect⟩ | ⟨-, isFault⟩ := mem_rowEffects_cases inRow
  · refine ⟨row, List.mem_range.mp inRange, column, inColumns, ?_⟩
    cases computed : (scene.pixelAt camera image.size greatestDepth row column).outcome with
    | error fault =>
      rw [pixelEffects_of_error computed] at isEffect
      simp at isEffect
    | ok color =>
      rw [pixelEffects_of_ok computed] at isEffect
      obtain ⟨rfl, rfl⟩ : index = row * image.size.width + column ∧ pixel = .opaqueOf color := by
        simpa using isEffect
      exact ⟨rfl, color, rfl, rfl⟩
  · cases isFault

/-- A row in which no pixel faults is rendered to its end. -/
theorem rowEffects_of_clear (clear : scene.Clear camera image greatestDepth) {row : Nat}
    (inRange : row < image.rowCount) :
    scene.rowEffects camera image greatestDepth row = (List.range (image.row row).size).flatMap
      (scene.pixelEffects camera image.size greatestDepth row) := by
  obtain ⟨inHeight, succeeds⟩ := clear row inRange
  rw [rowEffects, if_pos inHeight]
  refine Effect.untilFault_eq_self fun fault member => ?_
  obtain ⟨column, inColumns, isEffect⟩ := List.mem_flatMap.mp member
  exact noFail_pixelEffects_iff.mpr (succeeds column (List.mem_range.mp inColumns)) fault isEffect

/-- A fault is left to occur exactly when a pixel faults or a row is beyond the height. -/
theorem clear_iff_no_fail : scene.Clear camera image greatestDepth ↔
    ∀ fault, .fail fault ∉ (scene.workers camera greatestDepth image).pending := by
  rw [pending_workers]
  constructor
  · intro clear fault member
    obtain ⟨row, inRange, inRow⟩ := List.mem_flatMap.mp member
    exact noFail_rowEffects_iff.mpr (clear row (List.mem_range.mp inRange)) fault inRow
  · intro noFail row inRange
    refine noFail_rowEffects_iff.mp fun fault inRow => noFail fault ?_
    exact List.mem_flatMap.mpr ⟨row, List.mem_range.mpr inRange, inRow⟩

/-- The colour of every pixel is left to be written. -/
theorem write_mem_pending (clear : scene.Clear camera image greatestDepth) {row column : Nat}
    (inRange : row < image.rowCount) (inRow : column < (image.row row).size) {color : Color S}
    (isColor : (scene.pixelAt camera image.size greatestDepth row column).outcome = .ok color) :
    .write (row * image.width + column) (.opaqueOf color) ∈
      (scene.workers camera greatestDepth image).pending := by
  rw [pending_workers]
  refine List.mem_flatMap.mpr ⟨row, List.mem_range.mpr inRange, ?_⟩
  rw [rowEffects_of_clear clear inRange]
  refine List.mem_flatMap.mpr ⟨column, List.mem_range.mpr inRow, ?_⟩
  rw [pixelEffects_of_ok isColor]
  exact List.mem_cons_of_mem _ List.mem_cons_self

/-- The rows of a full picture write its pixels one after the other. -/
theorem filterMap_target_pending (full : image.Full)
    (clear : scene.Clear camera image greatestDepth) :
    (scene.workers camera greatestDepth image).pending.filterMap Effect.target =
      List.range (image.width * image.height) := by
  rw [pending_workers, List.filterMap_flatMap]
  have rows (row : Nat) (member : row ∈ List.range image.rowCount) :
      (scene.rowEffects camera image greatestDepth row).filterMap Effect.target =
        (List.range image.width).map fun column => row * image.width + column := by
    have inRange := List.mem_range.mp member
    obtain ⟨inHeight, succeeds⟩ := clear row inRange
    rw [full.size_row inHeight] at succeeds
    rw [rowEffects_of_clear clear inRange, full.size_row inHeight, List.filterMap_flatMap,
      List.map_eq_flatMap]
    refine List.flatMap_congr fun column inColumns => ?_
    obtain ⟨color, isColor⟩ := succeeds column (List.mem_range.mp inColumns)
    rw [pixelEffects_of_ok isColor]
    rfl
  rw [List.flatMap_congr rows]
  exact full.flatMap_rows

theorem total_pending (full : image.Full) (clear : scene.Clear camera image greatestDepth) :
    Effect.total (scene.workers camera greatestDepth image).pending =
      scene.events camera image.size greatestDepth := by
  have rows (row : Nat) (inRange : row < image.rowCount) :
      Effect.total (scene.rowEffects camera image greatestDepth row) =
        ∑ column ∈ Finset.range image.size.width,
          (scene.pixelAt camera image.size greatestDepth row column).tally := by
    obtain ⟨inHeight, succeeds⟩ := clear row inRange
    rw [full.size_row inHeight] at succeeds
    rw [rowEffects_of_clear clear inRange, full.size_row inHeight, Effect.total_flatMap]
    refine congrArg List.sum (List.map_congr_left fun column inColumns => ?_)
    obtain ⟨color, isColor⟩ := succeeds column (List.mem_range.mp inColumns)
    rw [pixelEffects_of_ok isColor, Effect.total_cons]
    exact add_zero _
  have allRows := full.rowCount_eq
  rw [pending_workers, Effect.total_flatMap]
  -- Without columns no row is rendered, whatever the height.
  by_cases empty : image.width = 0
  · rw [if_pos empty] at allRows
    have noColumns : image.size.width = 0 := empty
    rw [allRows, events, noColumns]
    exact Finset.sum_const_zero.symm
  · rw [if_neg empty] at allRows
    rw [allRows]
    refine congrArg List.sum (List.map_congr_left fun row member => ?_)
    exact rows row (allRows ▸ List.mem_range.mp member)

/-! ## The shared state after a complete schedule -/

/-- The shared state holds the picture of a scene: every pixel has its colour, the
events of all pixels are counted, and there was no fault. -/
structure IsPicture (scene : Scene S) (camera : Camera S) (size : ImageSize)
    (greatestDepth : Nat) (canvas : Canvas) : Prop where
  size_eq : canvas.image.size = size
  get_eq : ∀ row < size.height, ∀ column < size.width, ∃ color,
    (scene.pixelAt camera size greatestDepth row column).outcome = .ok color ∧
      canvas.image.get column row = .ok (.opaqueOf color)
  counters_eq : canvas.counters = Counters.zero.advance (scene.events camera size greatestDepth)
  fault_eq : canvas.fault = none
  full : canvas.image.Full

section Complete

variable {log : List Effect} {final : Workers}
  (runs : (scene.workers camera greatestDepth image).Runs log final) (finished : final.Finished)
include runs finished

/-- A complete schedule has performed an effect other than counting exactly when it
is one of the rows. -/
theorem mem_log_iff {effect : Effect} (indivisible : effect.indivisible = true) :
    effect ∈ log ↔ effect ∈ (scene.workers camera greatestDepth image).pending := by
  have performed := (runs.perm_of_finished finished).mem_iff (a := effect)
  rwa [List.mem_filter, List.mem_filter, and_iff_left indivisible,
    and_iff_left indivisible] at performed

/-- **A complete schedule writes every pixel exactly once.** -/
theorem perm_targets (full : image.Full) (clear : scene.Clear camera image greatestDepth) :
    (log.filterMap Effect.target).Perm (List.range (image.width * image.height)) := by
  rw [← filterMap_target_pending full clear, ← Effect.filterMap_target_filter log,
    ← Effect.filterMap_target_filter (scene.workers camera greatestDepth image).pending]
  exact (runs.perm_of_finished finished).filterMap _

/-- **A complete schedule ends without a fault exactly when no pixel faults and no row is
beyond the height**, whatever the number of pixels is. -/
theorem fault_eq_none_iff :
    final.canvas.fault = none ↔ scene.Clear camera image greatestDepth := by
  rw [runs.canvas_eq, Canvas.fault_foldl_eq_none_iff]
  constructor
  · rintro ⟨-, noFail, -⟩
    exact clear_iff_no_fail.mpr fun fault member =>
      noFail fault ((mem_log_iff runs finished rfl).mpr member)
  · intro clear
    refine ⟨rfl, fun fault member => ?_, fun index isTarget => ?_⟩
    · exact clear_iff_no_fail.mp clear fault ((mem_log_iff runs finished rfl).mp member)
    · obtain ⟨effect, member, writes⟩ := List.mem_filterMap.mp isTarget
      obtain ⟨pixel, rfl⟩ := Effect.target_eq_some_iff.mp writes
      obtain ⟨row, -, column, inRow, rfl, -⟩ :=
        exists_color_of_write_mem_pending ((mem_log_iff runs finished rfl).mp member)
      exact Image.index_lt_size inRow

/-- **A complete schedule leaves the picture of the scene** in a full picture. -/
theorem isPicture (full : image.Full) (clear : scene.Clear camera image greatestDepth) :
    IsPicture scene camera image.size greatestDepth final.canvas where
  size_eq := by rw [runs.canvas_eq, Canvas.size_foldl]; rfl
  get_eq := by
    intro row inRow column inColumn
    have inRange := full.lt_rowCount inRow inColumn
    have inChunk : column < (image.row row).size := full.size_row inRow ▸ inColumn
    obtain ⟨color, isColor⟩ := (clear row inRange).2 column inChunk
    refine ⟨color, isColor, fetch_eq_ok_iff.mpr ?_⟩
    have sameWidth : final.canvas.image.width = image.width := by
      have sameSize := Canvas.size_foldl ⟨image, .zero, none⟩ log
      rw [runs.canvas_eq]
      exact congrArg ImageSize.width sameSize
    rw [Image.index, sameWidth, runs.canvas_eq]
    refine Canvas.getElem?_foldl (Image.index_lt_size inChunk) (fun other isWritten => ?_) (.inr ?_)
    · have isPending := (mem_log_iff runs finished rfl).mp isWritten
      obtain ⟨otherRow, -, otherColumn, inColumns, sameIndex, otherColor, isOther, rfl⟩ :=
        exists_color_of_write_mem_pending isPending
      obtain ⟨rfl, rfl⟩ := ImageSize.index_injective inColumn
        (Image.lt_width_of_lt_size_row inColumns) sameIndex
      rw [Except.ok.inj (isColor.symm.trans isOther)]
    · exact (mem_log_iff runs finished rfl).mpr (write_mem_pending clear inRange inChunk isColor)
  counters_eq := by
    rw [runs.canvas_eq, Canvas.counters_foldl, runs.total_of_finished finished,
      total_pending full clear]
    rfl
  fault_eq := (fault_eq_none_iff runs finished).mpr clear
  full := by
    rw [runs.canvas_eq]
    exact Canvas.full_foldl full log

end Complete

/-! ## One picture for all schedules -/

/-- A scene has one picture. -/
theorem IsPicture.unique {size : ImageSize} {first second : Canvas}
    (isPicture : IsPicture scene camera size greatestDepth first)
    (other : IsPicture scene camera size greatestDepth second) : first = second := by
  have sameImage : first.image = second.image := by
    refine isPicture.full.eq_of_get other.full (isPicture.size_eq.trans other.size_eq.symm) ?_
    intro row inRow column inColumn
    have inHeight : row < size.height := isPicture.size_eq ▸ inRow
    have inWidth : column < size.width := isPicture.size_eq ▸ inColumn
    obtain ⟨color, isColor, read⟩ := isPicture.get_eq row inHeight column inWidth
    obtain ⟨otherColor, isOther, otherRead⟩ := other.get_eq row inHeight column inWidth
    obtain rfl := Except.ok.inj (isColor.symm.trans isOther)
    exact read.trans otherRead.symm
  have sameCounters := isPicture.counters_eq.trans other.counters_eq.symm
  have sameFault := isPicture.fault_eq.trans other.fault_eq.symm
  cases first
  cases second
  exact (Canvas.mk.injEq ..).mpr ⟨sameImage, sameCounters, sameFault⟩

/-- What a ray sees does not depend on earlier counts, so neither do the effects of a row. -/
theorem paint_withCounters (scene : Scene S) (counters : Counters) (camera : Camera S)
    (greatestDepth : Nat) (image : Image) :
    paint { scene with counters } camera greatestDepth image =
      scene.paint camera greatestDepth image := by
  have effects : rowEffects { scene with counters } camera image greatestDepth =
      scene.rowEffects camera image greatestDepth := by
    funext row
    have pixels : pixelEffects { scene with counters } camera image.size greatestDepth row =
        scene.pixelEffects camera image.size greatestDepth row := by
      funext column
      rw [pixelEffects, pixelEffects, pixelColor_withCounters]
    rw [rowEffects, rowEffects, pixels]
  rw [paint, paint, effects]

theorem render_of_fault_eq_none (scene : Scene S) {canvas : Canvas}
    (checked : scene.check image.size = .ok camera)
    (painted : scene.paint camera greatestDepth image = canvas) (noFault : canvas.fault = none) :
    scene.render image greatestDepth =
      ⟨.finished ⟨canvas.counters, scene.workerThreads.filter (0 < ·)⟩, canvas.image,
        { scene with counters := canvas.counters }⟩ := by
  unfold render
  rw [checked]
  dsimp only
  rw [painted, noFault]

/-- Rendering ends with the picture of the scene, whatever was counted before. -/
theorem render_of_isPicture {canvas : Canvas} (full : image.Full)
    (clear : scene.Clear camera image greatestDepth)
    (checked : scene.check image.size = .ok camera)
    (isPicture : IsPicture scene camera image.size greatestDepth canvas) (earlier : Counters) :
    render { scene with counters := earlier } image greatestDepth =
      ⟨.finished ⟨canvas.counters, scene.workerThreads.filter (0 < ·)⟩, canvas.image,
        { scene with counters := canvas.counters }⟩ := by
  obtain ⟨log, final, runs, finished, painted⟩ := runs_paint scene camera greatestDepth image
  obtain rfl := isPicture.unique (Scene.isPicture runs finished full clear)
  refine render_of_fault_eq_none { scene with counters := earlier } checked ?_ isPicture.fault_eq
  exact (paint_withCounters scene earlier camera greatestDepth image).trans painted.symm

/-- **Every schedule renders the same picture.** Let a scene that passes the checks
be rendered into a full picture by workers in any schedule that ends with nothing left
to do. No row number is below zero when counted from the bottom. There is no fault exactly when no
pixel faults, and none does when the shapes are well formed. Without a fault, the
pixel at a column and a row from the top is the opaque colour computed for that column
and the row from the bottom; every pixel is written exactly once; the counters are the
numbers of events of all pixels modulo the range of a machine word; and this is what
rendering returns, whatever was counted before. -/
theorem render_of_runs [IsTrans S (· < ·)] (checked : scene.check image.size = .ok camera)
    (full : image.pixels.size = image.width * image.height) {log : List Effect} {final : Workers}
    (runs : (scene.workers camera greatestDepth image).Runs log final)
    (finished : final.Finished) :
    let pixel (column row : Nat) := scene.pixelColor camera column row greatestDepth
    (∀ row < image.rowCount, image.height - 1 - row + row + 1 = image.height) ∧
    (final.canvas.fault = none ↔ ∀ row < image.height, ∀ column < image.width,
      ∃ color, (pixel column (image.height - 1 - row)).outcome = .ok color) ∧
    ((∀ renderable ∈ scene.renderables, renderable.shape.WellFormed) →
      final.canvas.fault = none) ∧
    (final.canvas.fault = none →
      final.canvas.image.size = image.size ∧
      (∀ row < image.height, ∀ column < image.width, ∃ color,
        (pixel column (image.height - 1 - row)).outcome = .ok color ∧
        final.canvas.image.get column row =
          .ok ⟨Single.toSingle color.x, Single.toSingle color.y, Single.toSingle color.z, 1⟩) ∧
      (log.filterMap Effect.target).Perm (List.range (image.width * image.height)) ∧
      final.canvas.counters.intersections.toNat =
        (∑ row ∈ Finset.range image.height, ∑ column ∈ Finset.range image.width,
          (pixel column row).tally.intersections) % 2 ^ 64 ∧
      final.canvas.counters.shadings.toNat =
        (∑ row ∈ Finset.range image.height, ∑ column ∈ Finset.range image.width,
          (pixel column row).tally.shadings) % 2 ^ 64 ∧
      ∀ earlier : Counters, render { scene with counters := earlier } image greatestDepth =
        ⟨.finished ⟨final.canvas.counters, scene.workerThreads.filter (0 < ·)⟩,
          final.canvas.image, { scene with counters := final.canvas.counters }⟩) := by
  intro pixel
  have fault_iff := fault_eq_none_iff runs finished
  have clear_iff := fault_iff.trans (clear_iff_of_full full)
  refine ⟨?_, clear_iff, ?_, ?_⟩
  · intro row inRange
    have inHeight : row < image.height := Image.Full.lt_height full inRange
    omega
  · intro wellFormed
    exact clear_iff.mpr fun row _ column _ =>
      succeeds_pixelColor wellFormed camera column (image.height - 1 - row) greatestDepth
  · intro noFault
    have clear := fault_iff.mp noFault
    have isPicture := isPicture runs finished full clear
    refine ⟨isPicture.size_eq, isPicture.get_eq, perm_targets runs finished full clear, ?_, ?_,
      render_of_isPicture full clear checked isPicture⟩
    · rw [isPicture.counters_eq, Counters.toNat_intersections_advance_zero]
      exact congrArg (· % 2 ^ 64) (map_events Tally.intersectionsHom scene camera image.size
        greatestDepth)
    · rw [isPicture.counters_eq, Counters.toNat_shadings_advance_zero]
      exact congrArg (· % 2 ^ 64) (map_events Tally.shadingsHom scene camera image.size
        greatestDepth)

/-- A lit sphere, and a picture of two pixels that has been used. -/
theorem render_of_runs_sphere :
    let scene : Scene Float := (((((empty.addAll [⟨.sphere .unit, .standard⟩]).addLight .white)
      ).setImageSize ⟨2, 1⟩).setView .standard).prepare
    let image : Image := ⟨2, 1, #[⟨1, 0, 0, 1⟩, .clear]⟩
    let camera : Camera Float := .ofView .standard 2 1
    scene.check image.size = .ok camera ∧ image.pixels.size = image.width * image.height ∧
      ∃ log final, (scene.workers camera 3 image).Runs log final ∧ final.Finished ∧
      final.canvas.fault = none ∧ (log.filterMap Effect.target).Perm (List.range 2) ∧
      (scene.render image 3).image = final.canvas.image := by
  intro scene image camera
  have checked : scene.check image.size = .ok camera := rfl
  obtain ⟨log, final, runs, finished, -⟩ := runs_paint scene camera 3 image
  obtain ⟨-, -, noFault_of_wellFormed, picture⟩ := render_of_runs checked rfl runs finished
  have noFault := noFault_of_wellFormed fun renderable member => by
    obtain rfl : renderable = ⟨.sphere .unit, .standard⟩ := by
      simpa [scene, prepare, setView, setImageSize, addLight, addAll, add, empty, Shape.prepare]
        using member
    trivial
  obtain ⟨-, -, once, -, -, rendered⟩ := picture noFault
  refine ⟨checked, rfl, log, final, runs, finished, noFault, once, ?_⟩
  exact congrArg Rendering.image (rendered scene.counters)

end Scene

end RayTracer
