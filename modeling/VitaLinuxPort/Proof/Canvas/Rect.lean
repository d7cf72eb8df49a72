import VitaLinuxPort.Proof.Canvas.Shapes

/-!
# Rectangles

Clipped once to the canvas, a rectangle is drawn pixel by pixel without another test. The pixels are
those of the unclipped rectangle that are on the canvas, which are also those that `cart_canvas_px`
draws.
-/

namespace VitaLinuxPort

open CIntType

variable [Target] {canvas : CartCanvas}

/-- The lattice points `(c, r)` of the rectangle. -/
def InRect (x y width height c r : Int) : Prop := (x ≤ c ∧ c < x + width) ∧ (y ≤ r ∧ r < y + height)

theorem rect_setsExactly (h : canvas.Backed) (x y width height : Int) (color : UInt32) :
    SetsExactly canvas (cartCanvasRect canvas x y width height color) color
      (InRect x y width height) := by
  simp only [cartCanvasRect, h.valid, Bool.not_true, Bool.false_eq_true, false_or, clip_low,
    clip_high]
  split
  case isTrue hnone =>
    refine (SetsExactly.refl canvas).congr fun c r _ _ => ?_
    simp only [InRect, false_iff]
    omega
  case isFalse =>
    split
    case isTrue hoff =>
      refine (SetsExactly.refl canvas).congr fun c r _ _ => ?_
      simp only [InRect, false_iff]
      omega
    case isFalse =>
      refine (SetsExactly.fill h (by omega) (by omega) (by omega) (by omega) _).congr
        fun c r _ _ => ?_
      simp only [InRect, and_true]
      omega

theorem checkedRect_eq (h : canvas.Backed) {x y width height : Int} (hx : int32.Holds x)
    (hy : int32.Holds y) (hwidth : int32.Holds width) (hheight : int32.Holds height)
    (color : UInt32) :
    checkedCanvasRect canvas x y width height color
      = some (cartCanvasRect canvas x y width height color) := by
  rw [holds_int32_iff] at hx hy hwidth hheight
  obtain ⟨hcolumns, hrows⟩ := h.lt_int64
  have hx1 : int64.add x width = some (x + width) := add_of_holds (holds_int64_iff.mpr (by omega))
  have hy1 : int64.add y height = some (y + height) :=
    add_of_holds (holds_int64_iff.mpr (by omega))
  have hcanvasWidth : int64.fit canvas.width = some (canvas.width : Int) :=
    fit_of_holds (holds_int64_iff.mpr (by omega))
  have hcanvasHeight : int64.fit canvas.height = some (canvas.height : Int) :=
    fit_of_holds (holds_int64_iff.mpr (by omega))
  rw [checkedCanvasRect, cartCanvasRect]
  split
  case isTrue => rfl
  case isFalse =>
    simp only [hx1, hy1, hcanvasWidth, hcanvasHeight, Option.bind_eq_bind, Option.bind_some,
      clip_low, clip_high]
    rw [apply_ite some, checkedFill_eq h (by omega) (by omega) (by omega) (by omega)
      (fun _ _ _ _ _ _ => rfl)]

/-- A pixel is drawn if it is on the canvas. -/
theorem px_setsExactly (h : canvas.Backed) (x y : Int) (color : UInt32) :
    SetsExactly canvas (cartCanvasPx canvas x y color) color fun c r => c = x ∧ r = y := by
  simp only [cartCanvasPx, h.valid, Bool.not_true, Bool.false_eq_true, false_or]
  split
  case isTrue =>
    refine (SetsExactly.refl canvas).congr fun c r _ _ => ?_
    rw [false_iff]
    rintro ⟨rfl, rfl⟩
    simp only [Int.toNat_natCast] at *
    omega
  case isFalse =>
    lift x to Nat using by omega
    lift y to Nat using by omega
    simp only [Int.toNat_natCast] at *
    exact SetsExactly.put h (by omega) (by omega)

theorem foldl_px_setsExactly (h : canvas.Backed) (points : List (Int × Int)) (color : UInt32) :
    SetsExactly canvas
      (points.foldl (fun canvas point => cartCanvasPx canvas point.1 point.2 color) canvas) color
      fun c r => (c, r) ∈ points := by
  refine (SetsExactly.foldl points fun other hlike point _ =>
    px_setsExactly (hlike.backed h) point.1 point.2 color).congr fun c r _ _ => ?_
  constructor
  · rintro ⟨point, hpoint, hc, hr⟩
    rw [hc, hr]
    exact hpoint
  · exact fun hpoint => ⟨_, hpoint, rfl, rfl⟩

/-- A rectangle is drawn without leaving the types and the buffer, its pixels on the canvas are set and
nothing else is; and where the canvas has no more columns and rows than an `int` counts, that is what
`cart_canvas_px` draws when it is called for the points of the rectangle, in whatever order. It
cannot be called for points that are no `int`. -/
theorem rect_eq_clipped (h : canvas.Backed) {x y width height : Int} (hx : int32.Holds x)
    (hy : int32.Holds y) (hwidth : int32.Holds width) (hheight : int32.Holds height)
    (color : UInt32) :
    checkedCanvasRect canvas x y width height color
        = some (cartCanvasRect canvas x y width height color) ∧
      SetsExactly canvas (cartCanvasRect canvas x y width height color) color
        (InRect x y width height) ∧
      (int32.Holds canvas.width → int32.Holds canvas.height → ∀ points : List (Int × Int),
        (∀ point ∈ points, InRect x y width height point.1 point.2) →
        (∀ c r, int32.Holds c → int32.Holds r → InRect x y width height c r → (c, r) ∈ points) →
        points.foldl (fun canvas point => cartCanvasPx canvas point.1 point.2 color) canvas
          = cartCanvasRect canvas x y width height color) := by
  refine ⟨checkedRect_eq h hx hy hwidth hheight color, rect_setsExactly h x y width height color, ?_⟩
  intro hcolumns hrows points honly hall
  rw [holds_int32_iff] at hcolumns hrows
  refine ((foldl_px_setsExactly h points color).congr fun c r hc hr => ?_).unique
    (rect_setsExactly h x y width height color)
  constructor
  · exact honly (c, r)
  · exact hall c r (holds_int32_iff.mpr (by omega)) (holds_int32_iff.mpr (by omega))

section Examples

omit [Target]

/-- A canvas of two columns and two rows that are three pixels apart. -/
def tinyCanvas : CartCanvas where
  pixels := .replicate 6 7
  width := 2
  height := 2
  stride := 3

theorem backed_tinyCanvas : @CartCanvas.Backed armv7 tinyCanvas :=
  @CartCanvas.Backed.mk armv7 tinyCanvas (by decide) (by decide)

/-- A rectangle that sticks out in every direction but the left. -/
theorem rect_eq_clipped_tinyCanvas :
    letI := armv7
    checkedCanvasRect tinyCanvas 1 (-1) 2147483647 4 9
        = some (cartCanvasRect tinyCanvas 1 (-1) 2147483647 4 9) ∧
      SetsExactly tinyCanvas (cartCanvasRect tinyCanvas 1 (-1) 2147483647 4 9) 9
        (InRect 1 (-1) 2147483647 4) ∧
      (int32.Holds tinyCanvas.width → int32.Holds tinyCanvas.height →
        ∀ points : List (Int × Int),
          (∀ point ∈ points, InRect 1 (-1) 2147483647 4 point.1 point.2) →
          (∀ c r, int32.Holds c → int32.Holds r → InRect 1 (-1) 2147483647 4 c r →
            (c, r) ∈ points) →
          points.foldl (fun canvas point => cartCanvasPx canvas point.1 point.2 9) tinyCanvas
            = cartCanvasRect tinyCanvas 1 (-1) 2147483647 4 9) :=
  @rect_eq_clipped armv7 tinyCanvas backed_tinyCanvas 1 (-1) 2147483647 4 (by decide) (by decide)
    (by decide) (by decide) 9

end Examples

end VitaLinuxPort
