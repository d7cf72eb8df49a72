import Mathlib.Tactic.Ring
import VitaLinuxPort.Lib.Painting
import VitaLinuxPort.Proof.Canvas.Rect
import VitaLinuxPort.Proof.FlashCheck.Ppm

/-!
# Writing a canvas and reading it back

What `cart_canvas_write_ppm` writes is a well-formed picture, with one blank before its raster, so the
checker reads it whatever bytes the raster begins with. The raster has the visible pixels and nothing
of what is between the rows.
-/

namespace VitaLinuxPort

open Ppm

/-- The red, green and blue bytes of the pixels on the canvas, row by row. -/
structure ShowsCanvas (canvas : CartCanvas) (raster : List UInt8) : Prop where
  length : raster.length = canvas.width * canvas.height * 3
  pixel : ∀ row column k : Nat, row < canvas.height → column < canvas.width → k < 3 →
    raster[(row * canvas.width + column) * 3 + k]?
      = canvas.pixels[row * canvas.stride + column]?.map fun color =>
          (color >>> UInt32.ofNat (8 * k)).toUInt8

section Raster

variable (canvas : CartCanvas)

/-- The bytes of one row. -/
def rowBytes (row : Nat) : List UInt8 :=
  (List.range canvas.width).flatMap fun column =>
    ppmPixel (canvas.pixels.getD (row * canvas.stride + column) 0)

theorem canvasRaster_eq : canvas.ppmRaster = (List.range canvas.height).flatMap (rowBytes canvas) := rfl

theorem length_rowBytes (row : Nat) : (rowBytes canvas row).length = canvas.width * 3 := by
  have hpixels := @Painting.length_flatMap_block _ _
    (fun column => ppmPixel (canvas.pixels.getD (row * canvas.stride + column) 0)) 3
    (List.range canvas.width) fun _ _ => rfl
  rwa [List.length_range] at hpixels

theorem length_ppmRaster : canvas.ppmRaster.length = canvas.width * canvas.height * 3 := by
  rw [canvasRaster_eq, Painting.length_flatMap_block fun row _ => length_rowBytes canvas row,
    List.length_range]
  ring

theorem toUInt8_and_255 (color : UInt32) : (color &&& 0xff).toUInt8 = color.toUInt8 := by
  rw [UInt32.toUInt8_and]
  exact UInt8.and_neg_one

theorem getElem?_ppmPixel (color : UInt32) {k : Nat} (hk : k < 3) :
    (ppmPixel color)[k]? = some (color >>> UInt32.ofNat (8 * k)).toUInt8 := by
  rw [ppmPixel, toUInt8_and_255, toUInt8_and_255, toUInt8_and_255]
  match k, hk with
  | 0, _ => exact congrArg (fun shifted : UInt32 => some shifted.toUInt8) UInt32.shiftRight_zero.symm
  | 1, _ | 2, _ => rfl

theorem isPpm_canvas (hwidth : 0 < canvas.width) (hheight : 0 < canvas.height) :
    IsPpm (canvas.ppmHeader ++ canvas.ppmRaster) canvas.width canvas.height canvas.ppmRaster := by
  have hheader : canvas.ppmHeader = [0x50, 0x36, 10] ++
      (Nat.toDigits 10 canvas.width).map (fun c => UInt8.ofNat c.toNat) ++ [32] ++
      (Nat.toDigits 10 canvas.height).map (fun c => UInt8.ofNat c.toNat) ++ [10, 50, 53, 53, 10] := by
    have hbytes (a b c d e : List Char) : (a ++ b ++ c ++ d ++ e).map (fun c => UInt8.ofNat c.toNat) =
        a.map (fun c => UInt8.ofNat c.toNat) ++ b.map (fun c => UInt8.ofNat c.toNat) ++
          c.map (fun c => UInt8.ofNat c.toNat) ++ d.map (fun c => UInt8.ofNat c.toNat) ++
          e.map (fun c => UInt8.ofNat c.toNat) := by
      rw [List.map_append, List.map_append, List.map_append, List.map_append]
    exact hbytes _ _ _ _ _
  have hfile := @IsPpm.mk [10] [] [] _ _ [50, 53, 53] canvas.ppmRaster [] 32 10 10 _ _
    (.blank rfl .nil) (List.cons_ne_nil 10 []) (number_toDigits canvas.width) rfl .nil
    (number_toDigits canvas.height) rfl .nil number_255 rfl hwidth hheight
    (length_ppmRaster canvas)
  rw [hheader]
  simp only [List.append_assoc, List.cons_append, List.nil_append, List.append_nil] at hfile ⊢
  exact hfile

variable {canvas} [Target] (h : canvas.Backed)
include h

theorem showsCanvas_ppmRaster : ShowsCanvas canvas canvas.ppmRaster := by
  refine ⟨length_ppmRaster canvas, ?_⟩
  intro row column k hrow hcolumn hk
  have hplace : (row * canvas.width + column) * 3 + k = row * (canvas.width * 3) + (column * 3 + k) := by
    ring
  have hinRow : column * 3 + k < canvas.width * 3 := by omega
  have hpixels := @Painting.getElem?_flatMap_block _ _
    (fun column => ppmPixel (canvas.pixels.getD (row * canvas.stride + column) 0)) 3
    (List.range canvas.width) (fun _ _ => rfl) column k hk
  have hpixel := List.getElem?_eq_getElem (h.place_lt hcolumn hrow)
  rw [List.getElem?_range hcolumn, Option.bind_some, getElem?_ppmPixel _ hk] at hpixels
  rw [hplace, canvasRaster_eq, Painting.getElem?_flatMap_block
    (fun row _ => length_rowBytes canvas row) row hinRow, List.getElem?_range hrow, Option.bind_some,
    rowBytes, hpixels, List.getD_eq_getElem?_getD, hpixel]
  rfl

/-- What is written is read back as the canvas's size and its visible pixels. -/
theorem ppm_round_trip :
    ∃ data raster, cartCanvasWritePpm canvas = some data ∧
      FlashCheck.readPpm data = some ((canvas.width : Int), (canvas.height : Int), raster) ∧
      ShowsCanvas canvas raster := by
  refine ⟨canvas.ppmHeader ++ canvas.ppmRaster, canvas.ppmRaster, ?_, ?_, showsCanvas_ppmRaster h⟩
  · rw [cartCanvasWritePpm, h.valid]
    rfl
  · exact FlashCheck.readPpm_of_isPpm (isPpm_canvas canvas h.pos.1 h.pos.2)

end Raster

/-- A canvas whose raster begins with the bytes of a comment. -/
theorem ppm_round_trip_comment :
    letI := armv7
    ∃ data raster, cartCanvasWritePpm { tinyCanvas with pixels := [0x300923, 7, 9, 0x0a, 0x20, 9] }
        = some data ∧
      FlashCheck.readPpm data = some (((2 : Nat) : Int), ((2 : Nat) : Int), raster) ∧
      ShowsCanvas { tinyCanvas with pixels := [0x300923, 7, 9, 0x0a, 0x20, 9] } raster :=
  @ppm_round_trip { tinyCanvas with pixels := [0x300923, 7, 9, 0x0a, 0x20, 9] } armv7
    (@CartCanvas.Backed.mk armv7 _ (by decide) (by decide))

end VitaLinuxPort
