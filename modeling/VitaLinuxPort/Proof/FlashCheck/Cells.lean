import Mathlib.Algebra.BigOperators.Ring.Finset
import Mathlib.Algebra.BigOperators.Ring.List
import Mathlib.Data.List.Nodup
import Mathlib.Data.List.ProdSigma
import Mathlib.Tactic.FieldSimp
import VitaLinuxPort.Cart.FlashCheck
import VitaLinuxPort.Lib.Painting
import VitaLinuxPort.Lib.Tiling

/-!
# The cells of the grid

The bounds of the cells in either direction are multiples of the cell's size and then the frame's. They
go up as long as the grid has at most one cell more than there are pixels; then the cells tile the
frame, and over exact numbers their luminances average to the luminance of the whole. With still more
cells one of them lies past the end of the row and takes its pixel from the next.
-/

namespace VitaLinuxPort

namespace FlashCheck

open Python

section Geometry

/-- Where the cell number `i` begins, and the one before it ends. -/
def cellBound (size grid i : Int) : Int := if i = grid then size else i * max 1 (size / grid)

/-- The rows and columns that the loops for a cell go through. -/
def cellPixels (cols rows grid : Int) (cell : Int × Int) : List (Int × Int) :=
  Int.range (cellBound rows grid cell.1) (cellBound rows grid (cell.1 + 1)) ×ˢ
    Int.range (cellBound cols grid cell.2) (cellBound cols grid (cell.2 + 1))

/-- The cells in reading order. -/
def gridCells (grid : Int) : List (Int × Int) := Int.range 0 grid ×ˢ Int.range 0 grid

def framePixels (cols rows : Int) : List (Int × Int) := Int.range 0 rows ×ˢ Int.range 0 cols

theorem nodup_range (first last : Int) : (Int.range first last).Nodup :=
  List.Nodup.map (fun _ _ h => by simpa using h) List.nodup_range

theorem nodup_gridCells (grid : Int) : (gridCells grid).Nodup :=
  List.Nodup.product (nodup_range 0 grid) (nodup_range 0 grid)

theorem length_range_zero (n : Int) : (Int.range 0 n).length = n.toNat := by
  rw [Int.range, List.length_map, List.length_range, Int.sub_zero]

theorem mem_framePixels {cols rows : Int} {pixel : Int × Int} :
    pixel ∈ framePixels cols rows ↔
      (0 ≤ pixel.1 ∧ pixel.1 < rows) ∧ (0 ≤ pixel.2 ∧ pixel.2 < cols) := by
  obtain ⟨y, x⟩ := pixel
  rw [framePixels, List.mem_product, Int.mem_range_iff, Int.mem_range_iff]

theorem mem_cellPixels {cols rows grid : Int} {cell pixel : Int × Int} :
    pixel ∈ cellPixels cols rows grid cell ↔
      (cellBound rows grid cell.1 ≤ pixel.1 ∧ pixel.1 < cellBound rows grid (cell.1 + 1)) ∧
        (cellBound cols grid cell.2 ≤ pixel.2 ∧ pixel.2 < cellBound cols grid (cell.2 + 1)) := by
  obtain ⟨y, x⟩ := pixel
  rw [cellPixels, List.mem_product, Int.mem_range_iff, Int.mem_range_iff]

theorem mem_gridCells {grid : Int} {cell : Int × Int} :
    cell ∈ gridCells grid ↔ (0 ≤ cell.1 ∧ cell.1 < grid) ∧ (0 ≤ cell.2 ∧ cell.2 < grid) := by
  obtain ⟨gy, gx⟩ := cell
  rw [gridCells, List.mem_product, Int.mem_range_iff, Int.mem_range_iff]

section Bounds

variable {size grid : Int} (hgrid : 1 ≤ grid)
include hgrid

theorem cellBound_zero : cellBound size grid 0 = 0 := by
  rw [cellBound, if_neg (by omega), Int.zero_mul]

omit hgrid in
theorem cellBound_self : cellBound size grid grid = size := if_pos rfl

/-- The last cell begins within the frame, or where it ends. -/
theorem last_bound_le (hfits : grid ≤ size + 1) : (grid - 1) * max 1 (size / grid) ≤ size := by
  obtain hone | hsome := le_total (size / grid) 1
  · rw [max_eq_left hone]
    omega
  · rw [max_eq_right hsome]
    have hquotient := Int.mul_ediv_self_le (x := size) (k := grid) (by omega)
    rw [Int.sub_mul]
    omega

theorem cellBound_mono (hfits : grid ≤ size + 1) :
    MonotoneOn (fun i : Nat => cellBound size grid i) (Set.Iic grid.toNat) := by
  have hlast := last_bound_le hgrid hfits
  have hcell : 0 ≤ max 1 (size / grid) := le_trans (by decide) (le_max_left 1 _)
  intro i hi j hj hij
  have hj : (j : Int) ≤ grid := Int.ofNat_le.mpr hj |>.trans_eq (Int.toNat_of_nonneg (by omega))
  have hij : (i : Int) ≤ j := Int.ofNat_le.mpr hij
  simp only [cellBound]
  by_cases hjlast : (j : Int) = grid
  · rw [if_pos hjlast]
    split
    · exact le_rfl
    · exact le_trans (mul_le_mul_of_nonneg_right (by omega) hcell) hlast
  · rw [if_neg hjlast, if_neg (by omega)]
    exact mul_le_mul_of_nonneg_right hij hcell

theorem exists_cell {x : Int} (hx : 0 ≤ x) (hlast : x < size) :
    ∃ i, (0 ≤ i ∧ i < grid) ∧ cellBound size grid i ≤ x ∧ x < cellBound size grid (i + 1) := by
  have htoNat : (grid.toNat : Int) = grid := Int.toNat_of_nonneg (by omega)
  obtain ⟨i, hi, hmem⟩ := @Tiling.exists_mem _ _ (fun i : Nat => cellBound size grid i) grid.toNat x
    ((cellBound_zero hgrid).trans_le hx) (by rw [htoNat, cellBound_self]; exact hlast)
  exact ⟨i, ⟨Int.natCast_nonneg i, by omega⟩, hmem⟩

theorem cell_unique (hfits : grid ≤ size + 1) {i j x : Int} (hi : 0 ≤ i ∧ i < grid)
    (hj : 0 ≤ j ∧ j < grid) (hxi : cellBound size grid i ≤ x ∧ x < cellBound size grid (i + 1))
    (hxj : cellBound size grid j ≤ x ∧ x < cellBound size grid (j + 1)) : i = j := by
  lift i to Nat using hi.1
  lift j to Nat using hj.1
  exact congrArg _ (Tiling.eq_of_mem (cellBound_mono hgrid hfits) (by omega) (by omega) hxi hxj)

theorem cell_within (hfits : grid ≤ size + 1) {i x : Int} (hi : 0 ≤ i ∧ i < grid)
    (hx : cellBound size grid i ≤ x ∧ x < cellBound size grid (i + 1)) : 0 ≤ x ∧ x < size := by
  lift i to Nat using hi.1
  have htoNat : (grid.toNat : Int) = grid := Int.toNat_of_nonneg (by omega)
  have hbetween := Tiling.between (cellBound_mono hgrid hfits) (show i < grid.toNat by omega)
  simp only [Nat.cast_zero, cellBound_zero hgrid, htoNat, cellBound_self, Nat.cast_succ] at hbetween
  exact ⟨hbetween.1.trans hx.1, hx.2.trans_le hbetween.2.2⟩

end Bounds

variable {cols rows grid : Int} (hgrid : 1 ≤ grid)
include hgrid

/-- The cells' pixels are the frame's, each in one cell and there once. -/
theorem cells_perm (hcols : grid ≤ cols + 1) (hrows : grid ≤ rows + 1) :
    ((gridCells grid).flatMap (cellPixels cols rows grid)).Perm (framePixels cols rows) := by
  have hcells : ((gridCells grid).flatMap (cellPixels cols rows grid)).Nodup := by
    rw [List.nodup_flatMap]
    refine ⟨fun cell _ => List.Nodup.product (nodup_range _ _) (nodup_range _ _), ?_⟩
    refine List.Pairwise.imp_of_mem ?_ (nodup_gridCells grid)
    intro cell other hcell hother hne
    rw [mem_gridCells] at hcell hother
    refine List.disjoint_left.mpr fun pixel hpixel hpixel' => hne ?_
    rw [mem_cellPixels] at hpixel hpixel'
    exact Prod.ext (cell_unique hgrid hrows hcell.1 hother.1 hpixel.1 hpixel'.1)
      (cell_unique hgrid hcols hcell.2 hother.2 hpixel.2 hpixel'.2)
  have hframe : (framePixels cols rows).Nodup :=
    List.Nodup.product (nodup_range _ _) (nodup_range _ _)
  refine (List.perm_ext_iff_of_nodup hcells hframe).mpr ?_
  intro pixel
  rw [List.mem_flatMap, mem_framePixels]
  constructor
  · rintro ⟨cell, hcell, hpixel⟩
    rw [mem_gridCells] at hcell
    rw [mem_cellPixels] at hpixel
    exact ⟨cell_within hgrid hrows hcell.1 hpixel.1, cell_within hgrid hcols hcell.2 hpixel.2⟩
  · rintro ⟨⟨hy, hbelow⟩, ⟨hx, hright⟩⟩
    obtain ⟨gy, hgy, hrow⟩ := exists_cell hgrid hy hbelow
    obtain ⟨gx, hgx, hcol⟩ := exists_cell hgrid hx hright
    exact ⟨(gy, gx), mem_gridCells.mpr ⟨hgy, hgx⟩, mem_cellPixels.mpr ⟨hrow, hcol⟩⟩

omit hgrid in
/-- With two cells more than pixels in a direction there is a cell right past the end. -/
theorem past_end {size : Int} (hsize : 1 ≤ size) (hmore : size + 1 < grid) :
    cellBound size grid size = size ∧ cellBound size grid (size + 1) = size + 1 := by
  have hcell : max 1 (size / grid) = 1 := max_eq_left (by
    rw [Int.ediv_eq_zero_of_lt (by omega) (by omega)]
    decide)
  rw [cellBound, cellBound, hcell, if_neg (by omega), if_neg (by omega)]
  omega

theorem first_cell {size : Int} (hsize : 1 ≤ size) :
    cellBound size grid 0 ≤ 0 ∧ 0 < cellBound size grid (0 + 1) := by
  refine ⟨(cellBound_zero hgrid).le, ?_⟩
  rw [cellBound]
  split
  · omega
  · exact lt_of_lt_of_le (by decide) (le_max_left 1 (size / grid)) |>.trans_eq (by ring)

/-- The cells' pixels are the frame's only where there are no such cells. -/
theorem fits_of_cells_perm (hcols : 1 ≤ cols) (hrows : 1 ≤ rows)
    (hperm : ((gridCells grid).flatMap (cellPixels cols rows grid)).Perm (framePixels cols rows)) :
    grid ≤ cols + 1 ∧ grid ≤ rows + 1 := by
  have hframe : ∀ cell ∈ gridCells grid, ∀ pixel ∈ cellPixels cols rows grid cell,
      pixel ∈ framePixels cols rows := fun cell hcell pixel hpixel =>
    hperm.mem_iff.mp (List.mem_flatMap.mpr ⟨cell, hcell, hpixel⟩)
  constructor
  · by_contra hmore
    obtain ⟨hbegins, hends⟩ := @past_end grid cols hcols (by omega)
    have hpixel := hframe (0, cols) (mem_gridCells.mpr ⟨⟨le_rfl, by omega⟩, by omega, by omega⟩)
      (0, cols) (mem_cellPixels.mpr ⟨first_cell hgrid hrows, hbegins.le, by rw [hends]; omega⟩)
    exact lt_irrefl cols (mem_framePixels.mp hpixel).2.2
  · by_contra hmore
    obtain ⟨hbegins, hends⟩ := @past_end grid rows hrows (by omega)
    have hpixel := hframe (rows, 0) (mem_gridCells.mpr ⟨⟨by omega, by omega⟩, le_rfl, by omega⟩)
      (rows, 0) (mem_cellPixels.mpr ⟨⟨hbegins.le, by rw [hends]; omega⟩, first_cell hgrid hcols⟩)
    exact lt_irrefl rows (mem_framePixels.mp hpixel).1.2

end Geometry

section Luminance

/-- The luminance, without its scale, of the pixel whose values come at a place of the frame. -/
def placeLuminance (values : List Nat) (place : Nat) : ℚ :=
  lumaR * (values.getD (3 * place) 0 : ℚ) + lumaG * (values.getD (3 * place + 1) 0 : ℚ)
    + lumaB * (values.getD (3 * place + 2) 0 : ℚ)

/-- The three reads of a pixel. -/
def readPixel (values : List Nat) (cols : Int) (pixel : Int × Int) : Option ℚ := do
  let position := pixel.1 * cols * 3 + pixel.2 * 3
  let red ← index values position
  let green ← index values (position + 1)
  let blue ← index values (position + 2)
  return lumaR * red + lumaG * green + lumaB * blue

/-- Adding up what is read, and counting it. -/
theorem foldlM_readPixel (values : List Nat) (cols : Int) (pixels : List (Int × Int))
    (state : ℚ × Nat) :
    pixels.foldlM (fun state pixel =>
        (readPixel values cols pixel).map fun read => (state.1 + read, state.2 + 1)) state
      = (pixels.mapM (readPixel values cols)).map
          fun read => (state.1 + read.sum, state.2 + read.length) := by
  induction pixels generalizing state with
  | nil => simp
  | cons pixel pixels ih =>
    rw [List.foldlM_cons, List.mapM_cons]
    cases readPixel values cols pixel with
    | none => rfl
    | some read =>
      simp only [Option.map_some, Option.bind_eq_bind, Option.bind_some, ih]
      cases pixels.mapM (readPixel values cols) with
      | none => rfl
      | some others => simp [add_assoc, add_comm 1]

theorem foldlM_product {α β σ : Type} {m : Type → Type} [Monad m] [LawfulMonad m]
    (f : σ → α × β → m σ) (outer : List α) (inner : List β) (state : σ) :
    (outer ×ˢ inner).foldlM f state
      = outer.foldlM (fun state a => inner.foldlM (fun state b => f state (a, b)) state) state := by
  induction outer generalizing state with
  | nil => rfl
  | cons a outer ih => simp [List.product_cons, List.foldlM_append, List.foldlM_map, ih]

theorem flatMapM_product {α β γ : Type} (f : α → β → Option γ) (outer : List α) (inner : List β) :
    (outer.flatMapM fun a => inner.mapM (f a)) = (outer ×ˢ inner).mapM fun p => f p.1 p.2 := by
  induction outer with
  | nil => rfl
  | cons a outer ih =>
    rw [List.flatMapM_cons, ih, List.product_cons, List.mapM_append, List.mapM_map]
    rfl

theorem mapM_congr {α β : Type} {f g : α → Option β} {l : List α} (h : ∀ a ∈ l, f a = g a) :
    l.mapM f = l.mapM g := by
  induction l with
  | nil => rfl
  | cons a l ih =>
    obtain ⟨ha, hl⟩ := List.forall_mem_cons.mp h
    rw [List.mapM_cons, List.mapM_cons, ha, ih hl]

theorem mapM_eq_some {α β : Type} {f : α → Option β} {g : α → β} {l : List α}
    (h : ∀ a ∈ l, f a = some (g a)) : l.mapM f = some (l.map g) := by
  rw [mapM_congr h]
  exact List.mapM_pure

/-- The loops of a cell are one loop over its pixels. -/
theorem cellTotal_eq (values : List Nat) (cols y0 y1 x0 x1 : Int) :
    cellTotal values cols y0 y1 x0 x1
      = ((Int.range y0 y1 ×ˢ Int.range x0 x1).mapM (readPixel values cols)).map
          fun read => (read.sum, read.length) := by
  have hloops := foldlM_readPixel values cols (Int.range y0 y1 ×ˢ Int.range x0 x1) (0, 0)
  simp only [zero_add] at hloops
  rw [← hloops, foldlM_product]
  have hstep : ∀ (y x : Int) (state : ℚ × Nat),
      (readPixel values cols (y, x)).map (fun read => (state.1 + read, state.2 + 1)) = (do
        let position := y * cols * 3 + x * 3
        let red ← index values position
        let green ← index values (position + 1)
        let blue ← index values (position + 2)
        return (PyFloat.add state.1 (PyFloat.add (PyFloat.add (PyFloat.mul lumaR (ofInt red))
          (PyFloat.mul lumaG (ofInt green))) (PyFloat.mul lumaB (ofInt blue))), state.2 + 1)) := by
    intro y x state
    simp only [readPixel, Option.map_eq_bind, Option.bind_eq_bind, Option.bind_assoc, ofInt_rat]
    rfl
  simp only [hstep, cellTotal, ofInt_rat]
  rfl

/-- What a cell's luminance is. -/
def cellLuminance (values : List Nat) (cols rows grid : Int) (cell : Int × Int) : Option ℚ :=
  ((cellPixels cols rows grid cell).mapM (readPixel values cols)).map fun read =>
    if read.length = 0 then 0 else read.sum / (read.length * 65535)

theorem luminanceCells_eq (values : List Nat) (cols rows grid : Int) :
    luminanceCells values cols rows grid
      = (gridCells grid).mapM (cellLuminance values cols rows grid) := by
  rw [luminanceCells, flatMapM_product]
  refine mapM_congr fun cell hcell => ?_
  obtain ⟨⟨-, hgy⟩, -, hgx⟩ := mem_gridCells.mp hcell
  have hlast : ∀ i : Int, i = grid - 1 ↔ i + 1 = grid := by
    omega
  rw [luminanceCell, cellTotal_eq, cellLuminance, cellPixels]
  simp only [cellBound, hlast, if_neg hgy.ne, if_neg hgx.ne]
  generalize List.mapM (readPixel values cols) _ = read
  cases read with
  | none => rfl
  | some read => simp

theorem everyThird_cons {α : Type} (a : α) (l : List α) :
    everyThird (a :: l) = a :: everyThird (l.drop 2) := by
  match l with
  | [] | [_] | _ :: _ :: _ => rfl

/-- The sum of the pixels, colour by colour. -/
theorem sum_placeLuminance {values : List Nat} {pixels : Nat} (hlength : values.length = 3 * pixels) :
    ((List.range pixels).map (placeLuminance values)).sum
      = lumaR * ((everyThird values).sum : ℚ) + lumaG * ((everyThird (values.drop 1)).sum : ℚ)
        + lumaB * ((everyThird (values.drop 2)).sum : ℚ) := by
  induction pixels generalizing values with
  | zero =>
    obtain rfl := List.eq_nil_of_length_eq_zero hlength
    simp [everyThird]
  | succ pixels ih =>
    match values, hlength with
    | red :: green :: blue :: rest, hlength =>
      have hrest : rest.length = 3 * pixels := by
        simp only [List.length_cons] at hlength
        omega
      have hnext : ∀ place, placeLuminance (red :: green :: blue :: rest) (place + 1)
          = placeLuminance rest place := fun _ => rfl
      have hfirst : placeLuminance (red :: green :: blue :: rest) 0
          = lumaR * red + lumaG * green + lumaB * blue := rfl
      rw [List.range_succ_eq_map, List.map_cons, List.map_map, List.sum_cons, hfirst]
      simp only [Function.comp_def, Nat.succ_eq_add_one, hnext, ih hrest, List.drop_succ_cons,
        List.drop_zero, everyThird_cons, List.sum_cons, Nat.cast_add]
      ring

variable {values : List Nat} {cols rows : Int}

/-- A pixel's place. -/
theorem exists_place {pixel : Int × Int} (hpixel : pixel ∈ framePixels cols rows) :
    ∃ place : Nat, pixel.1 * cols + pixel.2 = place ∧ (place : Int) < cols * rows := by
  obtain ⟨⟨hy, hbelow⟩, hx, hright⟩ := mem_framePixels.mp hpixel
  have hcols : 0 ≤ cols := by omega
  have hrows : (pixel.1 + 1) * cols ≤ rows * cols := mul_le_mul_of_nonneg_right hbelow hcols
  have hplace : 0 ≤ pixel.1 * cols + pixel.2 := add_nonneg (mul_nonneg hy hcols) hx
  refine ⟨(pixel.1 * cols + pixel.2).toNat, (Int.toNat_of_nonneg hplace).symm, ?_⟩
  rw [Int.toNat_of_nonneg hplace, mul_comm cols]
  linarith

theorem readPixel_eq (hlength : (values.length : Int) = cols * rows * 3) {pixel : Int × Int}
    (hpixel : pixel ∈ framePixels cols rows) :
    readPixel values cols pixel
      = some (placeLuminance values (pixel.1 * cols + pixel.2).toNat) := by
  obtain ⟨place, hplace, hinside⟩ := exists_place hpixel
  have hposition : pixel.1 * cols * 3 + pixel.2 * 3 = (3 * place : Nat) := by
    rw [Nat.cast_mul, ← hplace]
    push_cast
    ring
  simp only [readPixel, hposition]
  rw [index_natCast (by omega) 0, ← Nat.cast_succ, index_natCast (by omega) 0,
    show ((3 * place : Nat) : Int) + 2 = (3 * place + 2 : Nat) from rfl,
    index_natCast (by omega) 0, hplace, Int.toNat_natCast]
  rfl

theorem range_zero (n : Nat) : Int.range 0 n = (List.range n).map Nat.cast := by
  simp [Int.range]

theorem places_framePixels (cols rows : Nat) :
    (framePixels cols rows).map (fun pixel => (pixel.1 * (cols : Int) + pixel.2).toNat)
      = List.range (rows * cols) := by
  rw [← Painting.flatMap_range_eq, framePixels, range_zero, range_zero]
  change ((((List.range rows).map Nat.cast).flatMap fun y =>
    ((List.range cols).map Nat.cast).map (Prod.mk y)).map _) = _
  rw [List.map_flatMap, List.flatMap_map]
  apply List.flatMap_congr
  intro y _
  rw [List.map_map, List.map_map]
  apply List.map_congr_left
  intro x _
  simp only [Function.comp_apply]
  exact_mod_cast Int.toNat_natCast (y * cols + x)

/-- The luminance of all of the frame, from the places of its pixels. -/
theorem luminanceGlobal_eq (hcols : 1 ≤ cols) (hrows : 1 ≤ rows)
    (hlength : (values.length : Int) = cols * rows * 3) :
    luminanceGlobal values = .ok (((framePixels cols rows).map fun pixel =>
      placeLuminance values (pixel.1 * cols + pixel.2).toNat).sum / (cols * rows * 65535)) := by
  lift cols to Nat using by omega
  lift rows to Nat using by omega
  have hlength : values.length = 3 * (rows * cols) := by
    rw [mul_comm rows, mul_comm 3]
    exact_mod_cast hlength
  have hpixels : values.length / 3 = rows * cols := by omega
  have hsome : rows * cols ≠ 0 := (Nat.mul_pos (by omega) (by omega)).ne'
  have hplaces : (framePixels cols rows).map (fun pixel =>
      placeLuminance values (pixel.1 * (cols : Int) + pixel.2).toNat)
        = (List.range (rows * cols)).map (placeLuminance values) := by
    rw [← places_framePixels, List.map_map]
    rfl
  simp only [luminanceGlobal, hpixels, if_neg hsome]
  rw [hplaces, sum_placeLuminance hlength]
  simp only [add_rat, mul_rat, div_rat, ofInt_rat, Int.cast_natCast, Int.cast_ofNat, Int.cast_mul,
    Nat.cast_mul]
  rw [mul_comm (rows : ℚ)]

end Luminance

section Partition

/-- How many pixels each cell has. -/
def cellCounts (cols rows grid : Int) : List ℚ :=
  (gridCells grid).map fun cell => ((cellPixels cols rows grid cell).length : ℚ)

def weightedMean (weights values : List ℚ) : ℚ :=
  (List.zipWith (· * ·) weights values).sum / weights.sum

/-- The cells read only what is in the frame; their pixels are the frame's, each in one cell and
there once; and their luminances, weighted by how many pixels they have, average to that of the
frame. -/
structure CellsPartition (values : List Nat) (cols rows grid : Int) : Prop where
  inside : ∀ cell ∈ gridCells grid, ∀ pixel ∈ cellPixels cols rows grid cell,
    0 ≤ pixel.1 * cols * 3 + pixel.2 * 3 ∧ pixel.1 * cols * 3 + pixel.2 * 3 + 2 < values.length
  assigned : ((gridCells grid).flatMap (cellPixels cols rows grid)).Perm (framePixels cols rows)
  mean : ∃ cells : List ℚ, luminanceCells values cols rows grid = some cells ∧
    luminanceGlobal values = .ok (weightedMean (cellCounts cols rows grid) cells)

variable {values : List Nat} {cols rows grid : Int}

/-- The luminance of a cell whose pixels are in the frame. -/
theorem cellLuminance_eq (hlength : (values.length : Int) = cols * rows * 3) {cell : Int × Int}
    (hcell : ∀ pixel ∈ cellPixels cols rows grid cell, pixel ∈ framePixels cols rows) :
    ∃ luminance, cellLuminance values cols rows grid cell = some luminance ∧
      ((cellPixels cols rows grid cell).length : ℚ) * luminance
        = ((cellPixels cols rows grid cell).map fun pixel =>
            placeLuminance values (pixel.1 * cols + pixel.2).toNat).sum / 65535 := by
  have hread := mapM_eq_some fun pixel hpixel => readPixel_eq hlength (hcell pixel hpixel)
  rw [cellLuminance, hread]
  refine ⟨_, rfl, ?_⟩
  simp only [List.length_map]
  obtain hempty | hsome := eq_or_ne (cellPixels cols rows grid cell).length 0
  · rw [if_pos hempty, List.eq_nil_of_length_eq_zero hempty]
    simp
  · have hcount : ((cellPixels cols rows grid cell).length : ℚ) ≠ 0 := Nat.cast_ne_zero.mpr hsome
    rw [if_neg hsome]
    field_simp

/-- Where the cells have the frame's pixels, what they read and their mean follow. -/
theorem cellsPartition_of_perm (hcols : 1 ≤ cols) (hrows : 1 ≤ rows)
    (hlength : (values.length : Int) = cols * rows * 3)
    (hperm : ((gridCells grid).flatMap (cellPixels cols rows grid)).Perm (framePixels cols rows)) :
    CellsPartition values cols rows grid := by
  have hframe : ∀ cell ∈ gridCells grid, ∀ pixel ∈ cellPixels cols rows grid cell,
      pixel ∈ framePixels cols rows := fun cell hcell pixel hpixel =>
    hperm.mem_iff.mp (List.mem_flatMap.mpr ⟨cell, hcell, hpixel⟩)
  refine ⟨?_, hperm, ?_⟩
  · intro cell hcell pixel hpixel
    obtain ⟨place, hplace, hinside⟩ := exists_place (hframe cell hcell pixel hpixel)
    rw [hlength, show pixel.1 * cols * 3 + pixel.2 * 3 = (pixel.1 * cols + pixel.2) * 3 by ring,
      hplace]
    omega
  · choose! luminance hluminance hweight using fun cell hcell =>
      cellLuminance_eq hlength (hframe cell hcell)
    refine ⟨(gridCells grid).map luminance, ?_, ?_⟩
    · rw [luminanceCells_eq]
      exact mapM_eq_some hluminance
    · have hcounts : (cellCounts cols rows grid).sum = cols * rows := by
        have hlengths := hperm.length_eq
        rw [List.length_flatMap, framePixels, List.length_product, length_range_zero,
          length_range_zero] at hlengths
        have hcast : (cellCounts cols rows grid).sum
            = (((gridCells grid).map fun cell => (cellPixels cols rows grid cell).length).sum : ℚ) := by
          rw [Nat.cast_list_sum, List.map_map]
          rfl
        have hcols : (cols.toNat : ℚ) = cols := by exact_mod_cast Int.toNat_of_nonneg (by omega)
        have hrows : (rows.toNat : ℚ) = rows := by exact_mod_cast Int.toNat_of_nonneg (by omega)
        rw [hcast, hlengths, Nat.cast_mul, hcols, hrows, mul_comm]
      have hsum : (List.zipWith (· * ·) (cellCounts cols rows grid)
          ((gridCells grid).map luminance)).sum
            = ((framePixels cols rows).map fun pixel =>
                placeLuminance values (pixel.1 * cols + pixel.2).toNat).sum / 65535 := by
        rw [← (hperm.map _).sum_eq, cellCounts, List.zipWith_map, List.zipWith_self]
        simp only [List.map_congr_left hweight, div_eq_mul_inv, List.sum_map_mul_right]
        rw [List.map_flatMap, List.flatMap_def, List.sum_flatten, List.map_map]
        rfl
      rw [luminanceGlobal_eq hcols hrows hlength, weightedMean, hcounts, hsum, div_div, mul_comm]

/-- The cells of the grid partition the frame exactly where there are at most as many of them in each
direction as pixels and one more. -/
theorem cells_partition_iff (hcols : 1 ≤ cols) (hrows : 1 ≤ rows) (hgrid : 1 ≤ grid)
    (hlength : (values.length : Int) = cols * rows * 3) :
    CellsPartition values cols rows grid ↔ grid ≤ cols + 1 ∧ grid ≤ rows + 1 :=
  ⟨fun h => fits_of_cells_perm hgrid hcols hrows h.assigned, fun ⟨hfitsCols, hfitsRows⟩ =>
    cellsPartition_of_perm hcols hrows hlength (cells_perm hgrid hfitsCols hfitsRows)⟩

end Partition

/-- A grid of nine cells, the last of them empty, over four pixels. -/
theorem cells_partition_iff_three :
    CellsPartition (.replicate 12 0) 2 2 3 ↔ (3 : Int) ≤ 2 + 1 ∧ (3 : Int) ≤ 2 + 1 :=
  cells_partition_iff (by decide) (by decide) (by decide) rfl

/-- A frame of one pixel and nine cells: the second cell reads past the end of the frame. -/
theorem cells_partition_iff_past_end :
    ¬∀ (values : List Nat) (cols rows grid : Int), 1 ≤ cols → 1 ≤ rows → 1 ≤ grid →
      (values.length : Int) = cols * rows * 3 → CellsPartition values cols rows grid := by
  intro h
  have hinside := (h [0, 0, 0] 1 1 3 (by decide) (by decide) (by decide) rfl).inside (0, 1)
    (by decide) (0, 1) (by decide)
  exact absurd hinside (by decide)

end FlashCheck

end VitaLinuxPort
