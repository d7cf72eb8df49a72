import Mathlib.Data.List.Basic
import VitaLinuxPort.Cart.Presentation

/-!
# The upscaled frame

The pixel in column `x` and row `y` of the framebuffer is the one in column `x / 4` and row `y / 4` of
the logical frame, whatever the framebuffer and the scratch row held; the raster that is dumped is the
framebuffer without its alpha bytes.
-/

namespace VitaLinuxPort

variable {framebuffer logical row : Image}

/-- The pixel at a place of the framebuffer. -/
def shownPixel (logical : Image) (place : Nat) : UInt32 :=
  logical.getD (place / cartPresentationFramebufferWidth / cartPresentationScale *
    cartPresentationLogicalWidth + place % cartPresentationFramebufferWidth / cartPresentationScale) 0

/-- The logical pixel that the scratch row holds at a place. -/
def rowPixel (logical : Image) (y place : Nat) : UInt32 :=
  logical.getD (y * cartPresentationLogicalWidth + place / cartPresentationScale) 0

theorem shownPixel_row (logical : Image) (y : Nat) {k x : Nat} (hk : k < cartPresentationScale)
    (hx : x < cartPresentationFramebufferWidth) :
    shownPixel logical ((y * cartPresentationScale + k) * cartPresentationFramebufferWidth + x)
      = rowPixel logical y x := by
  have hrow : ((y * cartPresentationScale + k) * cartPresentationFramebufferWidth + x) /
      cartPresentationFramebufferWidth / cartPresentationScale = y := by
    rw [Nat.mul_comm, Nat.mul_add_div (by decide), Nat.div_eq_of_lt hx]
    unfold cartPresentationScale at *
    omega
  have hcolumn : ((y * cartPresentationScale + k) * cartPresentationFramebufferWidth + x) %
      cartPresentationFramebufferWidth = x := by
    rw [Nat.mul_comm, Nat.mul_add_mod, Nat.mod_eq_of_lt hx]
  rw [shownPixel, hrow, hcolumn, rowPixel]

theorem rowPixel_column (logical : Image) (y x : Nat) {k : Nat} (hk : k < cartPresentationScale) :
    rowPixel logical y (x * cartPresentationScale + k)
      = logical.getD (y * cartPresentationLogicalWidth + x) 0 := by
  have hplace : (x * cartPresentationScale + k) / cartPresentationScale = x := by
    unfold cartPresentationScale at *
    omega
  rw [rowPixel, hplace]

theorem expandRow_eq (y : Nat) (hrow : row.length = cartPresentationFramebufferWidth) :
    expandRow logical y row
      = (List.range cartPresentationFramebufferWidth).map (rowPixel logical y) := by
  have hpaint : expandRow logical y row
      = Painting.paint (rowPixel logical y) (List.range cartPresentationFramebufferWidth) row := by
    rw [cartPresentationFramebufferWidth, ← Painting.flatMap_range_eq]
    apply Painting.foldl_eq_paint
    intro row _ x _
    rw [Painting.paint, List.foldl_map]
    apply List.foldl_ext
    intro row k hk
    rw [rowPixel_column _ _ _ (List.mem_range.mp hk)]
  rw [hpaint, Painting.paint_eq_map, hrow]
  intro i hi
  exact List.mem_range.mpr (hrow ▸ hi)

/-- The places of the framebuffer rows that show a logical row. -/
def shownPlaces (y : Nat) : List Nat :=
  (List.range cartPresentationScale).flatMap fun k =>
    (List.range cartPresentationFramebufferWidth).map fun x =>
      (y * cartPresentationScale + k) * cartPresentationFramebufferWidth + x

theorem copyRow_eq {y : Nat} (hy : y < cartPresentationLogicalHeight)
    (hframebuffer : framebuffer.length
      = cartPresentationFramebufferHeight * cartPresentationFramebufferWidth) :
    copyRow framebuffer ((List.range cartPresentationFramebufferWidth).map (rowPixel logical y)) y
      = Painting.paint (shownPixel logical) (shownPlaces y) framebuffer := by
  apply Painting.foldl_eq_paint
  intro framebuffer hlength k hk
  have hk := List.mem_range.mp hk
  have hrow : (List.map (rowPixel logical y) (List.range cartPresentationFramebufferWidth)).length
      = cartPresentationFramebufferWidth := by
    rw [List.length_map, List.length_range]
  rw [List.take_of_length_le hrow.le, Painting.overwrite_eq_paint, hrow]
  · rw [hrow, hlength, hframebuffer]
    unfold cartPresentationFramebufferHeight cartPresentationLogicalHeight cartPresentationScale at *
    calc (y * 4 + k) * cartPresentationFramebufferWidth + cartPresentationFramebufferWidth
        = (y * 4 + k + 1) * cartPresentationFramebufferWidth := (Nat.add_one_mul _ _).symm
      _ ≤ 180 * 4 * cartPresentationFramebufferWidth := Nat.mul_le_mul_right _ (by omega)
  · intro x hx
    rw [hrow] at hx
    rw [List.getElem?_map, List.getElem?_range hx, Option.map_some, shownPixel_row _ _ hk hx]

theorem foldl_upscaleRow {rows : List Nat} (hrows : ∀ y ∈ rows, y < cartPresentationLogicalHeight)
    (hframebuffer : framebuffer.length
      = cartPresentationFramebufferHeight * cartPresentationFramebufferWidth)
    (hrow : row.length = cartPresentationFramebufferWidth) :
    (rows.foldl (upscaleRow logical) (framebuffer, row)).1
      = Painting.paint (shownPixel logical) (rows.flatMap shownPlaces) framebuffer := by
  induction rows generalizing framebuffer row with
  | nil => rfl
  | cons y rows ih =>
    have hy := hrows y List.mem_cons_self
    rw [List.foldl_cons, List.flatMap_cons, Painting.paint_append, ← copyRow_eq hy hframebuffer,
      ← expandRow_eq y hrow, upscaleRow]
    apply ih
    · exact fun other hother => hrows other (List.mem_cons_of_mem _ hother)
    · rw [expandRow_eq y hrow, copyRow_eq hy hframebuffer, Painting.length_paint, hframebuffer]
    · rw [expandRow_eq y hrow, List.length_map, List.length_range]

theorem flatMap_shownPlaces :
    (List.range cartPresentationLogicalHeight).flatMap shownPlaces
      = List.range (cartPresentationFramebufferHeight * cartPresentationFramebufferWidth) := by
  rw [← Painting.flatMap_range_eq, cartPresentationFramebufferHeight, ← Painting.flatMap_range_eq,
    List.flatMap_assoc]
  apply List.flatMap_congr
  intro y _
  rw [List.flatMap_map, shownPlaces]

theorem cartPresentationUpscale_eq (logical : Image)
    (hframebuffer : framebuffer.length
      = cartPresentationFramebufferHeight * cartPresentationFramebufferWidth)
    (hrow : row.length = cartPresentationFramebufferWidth) :
    (cartPresentationUpscale framebuffer logical row).1
      = (List.range (cartPresentationFramebufferHeight * cartPresentationFramebufferWidth)).map
          (shownPixel logical) := by
  rw [cartPresentationUpscale, foldl_upscaleRow (fun _ => List.mem_range.mp) hframebuffer hrow,
    flatMap_shownPlaces, Painting.paint_eq_map, hframebuffer]
  intro i hi
  exact List.mem_range.mpr (hframebuffer ▸ hi)

theorem and_255_toUInt8 (c : UInt32) : (c &&& 255).toUInt8 = c.toUInt8 := by
  rw [UInt32.toUInt8_and]
  exact UInt8.and_neg_one

/-- The raster of a dump is the upscaled frame in row order, red, green and blue of each pixel. -/
theorem ppmRaster_eq (logical : Image)
    (hframebuffer : framebuffer.length
      = cartPresentationFramebufferHeight * cartPresentationFramebufferWidth)
    (hrow : row.length = cartPresentationFramebufferWidth) :
    ppmRaster logical
      = (cartPresentationUpscale framebuffer logical row).1.flatMap
          fun pixel => (pixelBytes pixel).take 3 := by
  rw [cartPresentationUpscale_eq logical hframebuffer hrow, List.flatMap_map,
    ← Painting.flatMap_range_eq, cartPresentationFramebufferHeight, ← Painting.flatMap_range_eq,
    List.flatMap_assoc, List.flatMap_assoc, ppmRaster]
  apply List.flatMap_congr
  intro y _
  rw [List.flatMap_map]
  apply List.flatMap_congr
  intro ky hky
  rw [cartPresentationFramebufferWidth, ← Painting.flatMap_range_eq, List.flatMap_map,
    List.flatMap_assoc]
  apply List.flatMap_congr
  intro x hx
  rw [List.flatMap_map]
  apply List.flatMap_congr
  intro kx hkx
  have hky := List.mem_range.mp hky
  have hx := List.mem_range.mp hx
  have hkx := List.mem_range.mp hkx
  have hcolumn : x * cartPresentationScale + kx < cartPresentationFramebufferWidth := by
    unfold logicalWidth scale cartPresentationFramebufferWidth cartPresentationLogicalWidth
      cartPresentationScale at *
    omega
  have hpixel := (shownPixel_row logical y hky hcolumn).trans (rowPixel_column logical y x hkx)
  rw [cartPresentationFramebufferWidth] at hpixel
  rw [hpixel]
  simp only [and_255_toUInt8]
  rfl

end VitaLinuxPort
