import RayTracer.Image

/-!
# The indices of a picture

The pixels of a picture are stored row by row from the top. A place in one of its rows
is the index of a pixel (`Image.index_lt_size`), whatever the number of pixels is. No
row is beyond the height exactly when there are not too many pixels
(`Image.rows_lt_height_iff`).

In a full picture there is a pixel for every column and row. Every index below the
number of pixels is that of one row and one column (`ImageSize.exists_row_column`,
`ImageSize.index_injective`), and the rows, one after the other, go through all
indices (`Image.Full.flatMap_rows`). So a full picture is known by its size and its
pixels (`Image.Full.eq_of_get`).
-/

set_option autoImplicit false

namespace RayTracer

/-! ## Columns and rows -/

namespace ImageSize

/-- An index in a row is the index of a pixel of the picture. -/
theorem index_lt {width height row column : Nat} (inRow : row < height)
    (inColumn : column < width) : row * width + column < width * height := by
  calc row * width + column
    _ < (row + 1) * width := by
      rw [Nat.succ_mul]
      exact Nat.add_lt_add_left inColumn _
    _ ≤ height * width := Nat.mul_le_mul_right _ inRow
    _ = width * height := Nat.mul_comm _ _

theorem index_injective {width row column otherRow otherColumn : Nat} (inColumn : column < width)
    (otherInColumn : otherColumn < width)
    (same : row * width + column = otherRow * width + otherColumn) :
    row = otherRow ∧ column = otherColumn := by
  have positive := Nat.zero_lt_of_lt inColumn
  have sameRow := congrArg (· / width) same
  have sameColumn := congrArg (· % width) same
  simp only [Nat.mul_add_div positive, Nat.mul_comm _ width, Nat.mul_add_mod,
    Nat.div_eq_of_lt inColumn, Nat.div_eq_of_lt otherInColumn, Nat.mod_eq_of_lt inColumn,
    Nat.mod_eq_of_lt otherInColumn, Nat.add_zero] at sameRow sameColumn
  exact ⟨sameRow, sameColumn⟩

/-- A row and a column for every index of a picture. -/
theorem exists_row_column {width height index : Nat} (inside : index < width * height) :
    ∃ row < height, ∃ column < width, row * width + column = index := by
  have positive : 0 < width := Nat.pos_of_mul_pos_right (Nat.zero_lt_of_lt inside)
  exact ⟨index / width, Nat.div_lt_of_lt_mul inside, index % width, Nat.mod_lt _ positive,
    Nat.div_add_mod' index width⟩

/-- The rows of a picture are one after the other in its pixels. -/
theorem flatMap_range_mul (rows width : Nat) :
    ((List.range rows).flatMap fun row => (List.range width).map fun column =>
      row * width + column) = List.range (rows * width) := by
  induction rows with
  | zero => rw [Nat.zero_mul]; rfl
  | succ rows ih =>
    rw [List.range_succ, List.flatMap_append, ih, Nat.succ_mul, List.range_add]
    simp

end ImageSize

namespace Image

/-! ## The rows that the pixels make up -/

section Rows

variable {image : Image} {row column : Nat}

theorem size_row (image : Image) (row : Nat) :
    (image.row row).size =
      min ((row + 1) * image.width) image.pixels.size - row * image.width :=
  Array.size_extract

theorem lt_width_of_lt_size_row (inRow : column < (image.row row).size) :
    column < image.width := by
  rw [size_row, Nat.succ_mul] at inRow
  omega

/-- A place in a row is the index of a pixel. -/
theorem index_lt_size (inRow : column < (image.row row).size) :
    row * image.width + column < image.pixels.size := by
  rw [size_row] at inRow
  omega

/-- There is a row as long as there are pixels for it. -/
theorem lt_rowCount_iff :
    row < image.rowCount ↔ 0 < image.width ∧ row * image.width < image.pixels.size := by
  unfold rowCount
  split
  · rename_i narrow
    simp [narrow]
  · rename_i wide
    have positive := Nat.pos_of_ne_zero wide
    rw [Nat.lt_iff_add_one_le, Nat.le_div_iff_mul_le positive, Nat.succ_mul]
    omega

/-- No row is beyond the height exactly when there are no more pixels than columns and rows
demand. Without columns there are no rows at all. -/
theorem rows_lt_height_iff : (∀ row < image.rowCount, row < image.height) ↔
    image.width = 0 ∨ image.pixels.size ≤ image.width * image.height := by
  constructor
  · intro below
    refine Decidable.or_iff_not_imp_left.mpr fun wide => Nat.le_of_not_lt fun crowded => ?_
    rw [Nat.mul_comm] at crowded
    have isRow := lt_rowCount_iff.mpr ⟨Nat.pos_of_ne_zero wide, crowded⟩
    exact Nat.lt_irrefl _ (below image.height isRow)
  · rintro few row inRange
    obtain ⟨wide, reached⟩ := lt_rowCount_iff.mp inRange
    refine Nat.lt_of_mul_lt_mul_left (a := image.width) ?_
    calc image.width * row
      _ = row * image.width := Nat.mul_comm _ _
      _ < image.pixels.size := reached
      _ ≤ image.width * image.height := few.resolve_left (Nat.ne_of_gt wide)

end Rows

/-! ## Full pictures -/

/-- There is a pixel for every column and row. -/
def Full (image : Image) : Prop := image.pixels.size = image.width * image.height

theorem full_blank (width height : Nat) : (blank width height).Full := Array.size_replicate

namespace Full

variable {image : Image} (full : image.Full) {row column : Nat}
include full

theorem lt_height (inRange : row < image.rowCount) : row < image.height :=
  rows_lt_height_iff.mpr (.inr (Nat.le_of_eq full)) row inRange

/-- All rows are there, if there are columns. -/
theorem lt_rowCount (inRow : row < image.height) (inColumn : column < image.width) :
    row < image.rowCount := by
  have inside := ImageSize.index_lt inRow inColumn
  exact lt_rowCount_iff.mpr ⟨Nat.zero_lt_of_lt inColumn,
    Nat.lt_of_le_of_lt (Nat.le_add_right _ _) (full ▸ inside)⟩

/-- No row is short. -/
theorem size_row (inRow : row < image.height) : (image.row row).size = image.width := by
  have reached : (row + 1) * image.width ≤ image.pixels.size := by
    rw [full, Nat.mul_comm image.width]
    exact Nat.mul_le_mul_right _ inRow
  rw [Image.size_row, Nat.min_eq_left reached, Nat.succ_mul, Nat.add_sub_cancel_left]

theorem rowCount_eq : image.rowCount = if image.width = 0 then 0 else image.height := by
  split
  · rename_i narrow
    exact if_pos narrow
  · rename_i wide
    refine Nat.le_antisymm ?_ ?_
    · exact Nat.le_of_not_lt fun beyond => absurd (full.lt_height beyond) (Nat.lt_irrefl _)
    · refine Nat.le_of_not_lt fun short => absurd ?_ (Nat.lt_irrefl image.rowCount)
      exact full.lt_rowCount short (Nat.pos_of_ne_zero wide)

/-- The rows go through all indices, in order. -/
theorem flatMap_rows :
    ((List.range image.rowCount).flatMap fun row => (List.range image.width).map fun column =>
      row * image.width + column) = List.range (image.width * image.height) := by
  rw [ImageSize.flatMap_range_mul, full.rowCount_eq]
  split
  · rename_i narrow
    rw [narrow, Nat.zero_mul, Nat.zero_mul]
  · rw [Nat.mul_comm]

/-- Full pictures of the same size with the same pixels are the same. -/
theorem eq_of_get {second : Image} (fullToo : second.Full) (sameSize : image.size = second.size)
    (same : ∀ row < image.height, ∀ column < image.width,
      image.get column row = second.get column row) : image = second := by
  obtain ⟨width, height, pixels⟩ := image
  obtain ⟨otherWidth, otherHeight, otherPixels⟩ := second
  obtain ⟨rfl, rfl⟩ : width = otherWidth ∧ height = otherHeight := by
    simpa [Image.size] using sameSize
  obtain rfl : pixels = otherPixels := by
    refine Array.ext (Eq.trans full fullToo.symm) fun index inside otherInside => ?_
    obtain ⟨row, inRow, column, inColumn, rfl⟩ := ImageSize.exists_row_column
      (Nat.lt_of_lt_of_eq inside full)
    have isPixel := fetch_eq_ok_iff.mpr (Array.getElem?_eq_getElem inside)
    have isOther : otherPixels[row * width + column]? = some pixels[row * width + column] :=
      fetch_eq_ok_iff.mp ((same row inRow column inColumn).symm.trans isPixel)
    rw [Array.getElem?_eq_getElem otherInside] at isOther
    exact (Option.some.inj isOther).symm
  rfl

end Full

end Image

end RayTracer
