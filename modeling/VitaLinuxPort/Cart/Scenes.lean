import Mathlib.Algebra.Order.Group.Unbundled.Int
import Mathlib.Data.Int.Bitwise
import VitaLinuxPort.Cart.Canvas

/-!
# The built-in scenes

`cart/scenes/scene_2d_legacy.c`, and `row_job` and `render_frame` of `cart/src/pstv-demo-cart.c`. An
`int` is an integer here: `/` and `%` round towards zero, `>>` towards minus infinity, and `& m` for
`m` one less than a power of two is the remainder that is never negative. The sine table, which the
program computes in floating point, is a parameter: `sine k` is what `si` returns for the entry `k`.
-/

namespace VitaLinuxPort

def logicalWidth : Nat := 320

def logicalHeight : Nat := 180

/-- `which`, one of the `SCENES` built-in scenes. -/
abbrev SceneIndex := Fin 6

def palette : List UInt32 :=
  [0xffb8a9f5, 0xffe8d6ff, 0xffffffff, 0xffface5b, 0xffe8bc49, 0xffff8cc5, 0xffff6c9d, 0xffc8f7ff,
    0xffa82a6b, 0xffa147f4]

def pal (index : Int) : UInt32 := palette.getD index.toNat 0

def mix (a b : UInt32) (t : Int) : UInt32 := cartMix a b (if t < 0 then 0 else t.toNat)

section Rows

variable (sine : Nat → Int)

def si (x : Int) : Int := sine (x % 2048).toNat

/-- The loops of a row pass, which writes `low[y*LW+x]` for every `x` and for `y` from `y0` to before
`y1`. -/
def rowPass (y0 y1 : Int) (pixel : Int → Int → UInt32) (low : Image) : Image :=
  (Int.range y0 y1).foldl (fun low y =>
    (Int.range 0 logicalWidth).foldl (fun low x =>
      low.set (y * (logicalWidth : Int) + x).toNat (pixel x y)) low) low

def candyPixel (t x y : Int) : UInt32 :=
  let dx := x - 160
  let dy := y - 90
  let d := (dx * dx + dy * dy) >>> (4 : Nat)
  let warp := si sine ((x * 9 + t * 11) % 2048) + si sine ((y * 13 - t * 7) % 2048)
  let band := ((d + (warp >>> (7 : Nat)) - t * 8) >>> (4 : Nat)) % 8
  let a := pal (band.tmod 5)
  let b := pal ((band + 1).tmod 5)
  mix a b ((si sine (d * 5 + t * 17) + 1024) >>> (3 : Nat))

def sceneCandy (y0 y1 t : Int) : Image → Image := rowPass y0 y1 (candyPixel sine t)

def checkerPixel (t x y : Int) : UInt32 :=
  let yy := y + (si sine (x * 10 + t * 14) >>> (8 : Nat))
  let xx := x + (si sine (y * 13 - t * 9) >>> (8 : Nat))
  let q := Int.xor (xx >>> (3 : Nat)) (yy >>> (3 : Nat)) % 2
  let glow := (si sine (x * 6 + y * 8 + t * 12) + 1024) >>> (4 : Nat)
  mix (if q ≠ 0 then pal 0 else pal 4) (if q ≠ 0 then pal 2 else pal 5) glow

def sceneChecker (y0 y1 t : Int) : Image → Image := rowPass y0 y1 (checkerPixel sine t)

def bubbleX (t i : Int) : Int :=
  160 + ((si sine (t * (7 + i) + i * 273) * (45 + i * 5)) >>> (10 : Nat))

def bubbleY (t i : Int) : Int :=
  90 + ((si sine (t * (9 + i) + i * 411) * (28 + i * 4)) >>> (10 : Nat))

def bubblesPixel (t x y : Int) : UInt32 :=
  let field := (Int.range 0 7).foldl (fun field i =>
    let dx := x - bubbleX sine t i
    let dy := y - bubbleY sine t i
    field + (9000 + i * 700).tdiv (18 + dx * dx + dy * dy)) 0
  let wave := (si sine (x * 8 - y * 6 + t * 18) + 1024) >>> (5 : Nat)
  if field > 22 then mix (pal 1) (pal 5) ((field * 9 + wave) % 256)
  else mix (pal 8) (pal 6) wave

def sceneBubbles (y0 y1 t : Int) : Image → Image := rowPass y0 y1 (bubblesPixel sine t)

def ribbonsPixel (t x y : Int) : UInt32 :=
  let wave := 90 + (si sine (x * 12 + t * 13) >>> (5 : Nat))
  let wave2 := 90 + (si sine (x * 9 - t * 17 + 500) >>> (4 : Nat))
  let d1 := |y - wave|
  let d2 := |y - wave2|
  let base := mix (pal 3) (pal 1) ((y * 255).tdiv logicalHeight)
  let base := if d1 < 8 then mix (pal 0) (pal 2) (d1 * 30) else base
  if d2 < 5 then mix (pal 6) (pal 2) (d2 * 45) else base

def sceneRibbons (y0 y1 t : Int) : Image → Image := rowPass y0 y1 (ribbonsPixel sine t)

/-- This scene does not move. -/
def chromePixel (x y : Int) : UInt32 :=
  if y < 95 then
    let glow := (si sine (x * 5 + y * 4) + 1024) >>> (4 : Nat)
    mix (pal 8) (pal 0) glow
  else
    let z := y - 94
    let horizon := z * 13 % 32 < 2
    let van := ((x - 160) * 90).tdiv (z + 8)
    let vertical := |van|.tmod 42 < 2
    if horizon ∨ vertical then pal 2 else mix (pal 6) (pal 8) z

def sceneChrome (y0 y1 _t : Int) : Image → Image := rowPass y0 y1 (chromePixel sine)

def sugarPixel (t x y : Int) : UInt32 :=
  let a := si sine (x * 10 + t * 13)
  let b := si sine (y * 14 - t * 9)
  let c := si sine ((x + y) * 7 + t * 5)
  let v := (a + b + c + 3072).tdiv 12
  let stripe := ((x + y + (si sine (t * 17 + x * 3) >>> (7 : Nat))) >>> (3 : Nat)) % 4
  mix (pal ((stripe + 0).tmod 5)) (pal ((stripe + 2).tmod 5)) (v % 256)

def sceneSugar (y0 y1 t : Int) : Image → Image := rowPass y0 y1 (sugarPixel sine t)

end Rows

/-- The rows of `shape`. -/
def heartShape : List CString :=
  ["01100110".toList, "11111111".toList, "11111111".toList, "11111111".toList, "01111110".toList,
    "00111100".toList, "00011000".toList, "00000000".toList]

def heartAt (y x : Int) : Char := (heartShape.getD y.toNat []).getD x.toNat '0'

def font : List (List Nat) :=
  [[14, 17, 17, 31, 17, 17, 17], [30, 17, 17, 30, 17, 17, 30], [14, 17, 16, 16, 16, 17, 14],
    [30, 17, 17, 17, 17, 17, 30], [31, 16, 16, 30, 16, 16, 31], [31, 16, 16, 30, 16, 16, 16],
    [14, 17, 16, 23, 17, 17, 15], [17, 17, 17, 31, 17, 17, 17], [14, 4, 4, 4, 4, 4, 14],
    [7, 2, 2, 2, 18, 18, 12], [17, 18, 20, 24, 20, 18, 17], [16, 16, 16, 16, 16, 16, 31],
    [17, 27, 21, 21, 17, 17, 17], [17, 25, 21, 19, 17, 17, 17], [14, 17, 17, 17, 17, 17, 14],
    [30, 17, 17, 30, 16, 16, 16], [14, 17, 17, 17, 21, 18, 13], [30, 17, 17, 30, 20, 18, 17],
    [15, 16, 16, 14, 1, 1, 30], [31, 4, 4, 4, 4, 4, 4], [17, 17, 17, 17, 17, 17, 14],
    [17, 17, 17, 17, 17, 10, 4], [17, 17, 17, 21, 21, 21, 10], [17, 17, 10, 4, 10, 17, 17],
    [17, 17, 10, 4, 4, 4, 4], [31, 1, 2, 4, 8, 16, 31], [14, 17, 19, 21, 25, 17, 14],
    [4, 12, 4, 4, 4, 4, 14], [14, 17, 1, 2, 4, 8, 31], [30, 1, 1, 14, 1, 1, 30],
    [2, 6, 10, 18, 31, 2, 2], [31, 16, 16, 30, 1, 1, 30], [14, 16, 16, 30, 17, 17, 14],
    [31, 1, 2, 4, 8, 8, 8], [14, 17, 17, 14, 17, 17, 14], [14, 17, 17, 15, 1, 1, 14],
    [0, 0, 0, 0, 0, 0, 0]]

def fontIndex (c : Char) : Nat :=
  if 'A' ≤ c ∧ c ≤ 'Z' then c.toNat - 'A'.toNat
  else if '0' ≤ c ∧ c ≤ '9' then 26 + c.toNat - '0'.toNat
  else 36

/-- `FONT[idx][yy] & (1 << (4-xx))`. -/
def fontBit (c : Char) (yy xx : Int) : Bool :=
  ((font.getD (fontIndex c) []).getD yy.toNat 0).testBit (4 - xx).toNat

def rng32 (x : UInt32) : UInt32 :=
  let x := x ^^^ (x >>> 16)
  let x := x * 0x7feb352d
  let x := x ^^^ (x >>> 15)
  let x := x * 0x846ca68b
  x ^^^ (x >>> 16)

/-- An `int` as the other operand of an unsigned one. -/
def unsigned (x : Int) : UInt32 := UInt32.ofInt x

/-- An unsigned value assigned to an `int`. -/
def signed (x : UInt32) : Int := x.toInt32.toInt

variable [Target]

section Drawing

def heart (canvas : CartCanvas) (cx cy s : Int) (c edge : UInt32) : CartCanvas :=
  let canvas := (Int.range 0 8).foldl (fun canvas y =>
    (Int.range 0 8).foldl (fun canvas x =>
      if heartAt y x = '1' then
        let border := x = 0 ∨ x = 7 ∨ y = 0 ∨ y = 6 ∨ (x > 0 ∧ heartAt y (x - 1) = '0') ∨
          (x < 7 ∧ heartAt y (x + 1) = '0') ∨ (y > 0 ∧ heartAt (y - 1) x = '0')
        cartCanvasRect canvas (cx + (x - 4) * s) (cy + (y - 3) * s) s s (if border then edge else c)
      else canvas) canvas) canvas
  if s > 1 then cartCanvasRect canvas (cx - 2 * s) (cy - 2 * s) s s 0xffffffff else canvas

def star (canvas : CartCanvas) (cx cy r : Int) (c : UInt32) : CartCanvas :=
  (Int.range (-r) (r + 1)).foldl (fun canvas i =>
    let canvas := cartCanvasPx canvas (cx + i) cy c
    let canvas := cartCanvasPx canvas cx (cy + i) c
    if |i| < r.tdiv 2 + 1 then
      let canvas := cartCanvasPx canvas (cx + i) (cy + i) c
      cartCanvasPx canvas (cx + i) (cy - i) c
    else canvas) canvas

def flower (canvas : CartCanvas) (cx cy s : Int) (petal center : UInt32) : CartCanvas :=
  let canvas := cartCanvasCircle canvas (cx - s) cy s petal
  let canvas := cartCanvasCircle canvas (cx + s) cy s petal
  let canvas := cartCanvasCircle canvas cx (cy - s) s petal
  let canvas := cartCanvasCircle canvas cx (cy + s) s petal
  cartCanvasCircle canvas cx cy s center

/-- `text` without a shadow. -/
def textGlyphs (canvas : CartCanvas) (x y : Int) (s : CString) (scale : Int) (c : UInt32) :
    CartCanvas :=
  match s with
  | [] => canvas
  | char :: rest =>
      let canvas :=
        if char = ' ' then canvas
        else
          (Int.range 0 7).foldl (fun canvas yy =>
            (Int.range 0 5).foldl (fun canvas xx =>
              if fontBit char yy xx then
                cartCanvasRect canvas (x + xx * scale) (y + yy * scale) scale scale c
              else canvas) canvas) canvas
      textGlyphs canvas (x + 6 * scale) y rest scale c

def text (canvas : CartCanvas) (x y : Int) (s : CString) (scale : Int) (c shadow : UInt32) :
    CartCanvas :=
  let canvas :=
    if shadow ≠ 0 then textGlyphs canvas (x + scale) (y + scale) s scale shadow else canvas
  textGlyphs canvas x y s scale c

def textCenter (canvas : CartCanvas) (y : Int) (s : CString) (scale : Int) (c shadow : UInt32) :
    CartCanvas :=
  let width := ((s.length : Int) * 6 - 1) * scale
  text canvas (((logicalWidth : Int) - width).tdiv 2) y s scale c shadow

end Drawing

section Overlays

variable (sine : Nat → Int)

def overlayCandy (canvas : CartCanvas) (t : Int) : CartCanvas :=
  let canvas := (Int.range 0 18).foldl (fun canvas i =>
    let r := rng32 (unsigned i * 991)
    let x := signed ((r + unsigned (t * (1 + i.tmod 3))) % 320)
    let y := signed (((r >>> 11) + unsigned (i * 17)) % 180)
    star canvas x y (2 + i.tmod 3) (pal 2)) canvas
  let canvas := heart canvas 160 82 5 (pal 0) (pal 8)
  textCenter canvas 139 "CANDY VORTEX".toList 3 (pal 2) (pal 8)

def overlayGirlMode (canvas : CartCanvas) (t : Int) : CartCanvas :=
  let canvas := (Int.range 0 24).foldl (fun canvas i =>
    let r := rng32 (unsigned i * 1777)
    let x := signed (r % 340 - 10)
    let y := signed (((r >>> 10) + unsigned (t * (2 + i.tmod 4))) % 210 - 15)
    heart canvas x y (1 + if i.tmod 3 = 0 then 1 else 0) (pal (i.tmod 5)) (pal 8)) canvas
  let canvas := textCenter canvas 72 "GIRL MODE".toList 5 (pal 2) (pal 8)
  textCenter canvas 119 "MAXIMUM".toList 4 (pal 0) (pal 8)

def overlayBubblegum (canvas : CartCanvas) : CartCanvas :=
  let canvas := (Int.range 0 20).foldl (fun canvas i =>
    let r := rng32 (unsigned i * 31337)
    star canvas (signed (r % 320)) (signed ((r >>> 10) % 180)) (1 + i.tmod 3) (pal 2)) canvas
  let canvas := textCenter canvas 14 "BUBBLEGUM".toList 5 (pal 2) (pal 8)
  textCenter canvas 145 "OVERDRIVE".toList 4 (pal 0) (pal 8)

def overlayButterflyRiot (canvas : CartCanvas) (t : Int) : CartCanvas :=
  let canvas := (Int.range 0 24).foldl (fun canvas i =>
    let x := (i * 29 + t * (i.tmod 3 + 1)).tmod 350 - 15
    let y := 70 + ((si sine (t * (8 + i) + i * 193) * 55) >>> (10 : Nat))
    let left := pal ((i + 0).tmod 5)
    let right := pal ((i + 3).tmod 5)
    let canvas := cartCanvasCircle canvas (x - 4) (y - 2) 3 left
    let canvas := cartCanvasCircle canvas (x + 4) (y - 2) 3 right
    let canvas := cartCanvasCircle canvas (x - 3) (y + 3) 2 left
    let canvas := cartCanvasCircle canvas (x + 3) (y + 3) 2 right
    let canvas := cartCanvasRect canvas (x - 1) (y - 4) 2 9 (pal 8)
    if (i + t.tdiv 3).tmod 4 = 0 then star canvas (x - 10) (y + 5) 2 (pal 2) else canvas) canvas
  let canvas := (Int.range 0 12).foldl (fun canvas i =>
    flower canvas ((i * 41 + t).tmod 340 - 10) (20 + (i * 23).tmod 140) 2 (pal ((i + 1).tmod 5))
      (pal 2)) canvas
  textCenter canvas 143 "BUTTERFLY RIOT".toList 3 (pal 2) (pal 8)

def overlayHyperdrive (canvas : CartCanvas) (t : Int) : CartCanvas :=
  let cx := 160 + ((si sine (t * 9) * 28) >>> (10 : Nat))
  let cy := 67 + ((si sine (t * 13) * 9) >>> (10 : Nat))
  let r := 39
  let canvas := (Int.range (-r) (r + 1)).foldl (fun canvas y =>
    (Int.range (-r) (r + 1)).foldl (fun canvas x =>
      if x * x + y * y ≤ r * r then
        let band := ((y + r) * 10).tdiv (2 * r + 1)
        cartCanvasPx canvas (cx + x) (cy + y) (pal (band.tmod 8))
      else canvas) canvas) canvas
  let canvas := cartCanvasCircle canvas (cx - 13) (cy - 15) 7 0xffffffff
  let canvas := star canvas (cx - 17) (cy - 18) 6 0xffffffff
  let canvas := textCenter canvas 11 "SHE HER".toList 6 (pal 2) (pal 8)
  textCenter canvas 143 "HYPERDRIVE".toList 4 (pal 0) (pal 8)

def overlayTooMuch (canvas : CartCanvas) : CartCanvas :=
  let canvas := (Int.range 0 35).foldl (fun canvas i =>
    let r := rng32 (unsigned i * 7331)
    let x := signed (r % 320)
    let y := signed ((r >>> 10) % 180)
    let s := 1 + i.tmod 3
    if i.tmod 3 = 0 then heart canvas x y s (pal (i.tmod 5)) (pal 8)
    else if i.tmod 3 = 1 then flower canvas x y (2 + s) (pal (i.tmod 5)) (pal 2)
    else star canvas x y (2 + s) (pal 2)) canvas
  let canvas := textCenter canvas 54 "TOO MUCH".toList 6 (pal 2) (pal 8)
  textCenter canvas 104 "IS ENOUGH".toList 5 (pal 9) (pal 8)

def overlay (canvas : CartCanvas) (which : SceneIndex) (t : Int) : CartCanvas :=
  let canvas := match which with
    | 0 => overlayCandy canvas t
    | 1 => overlayGirlMode canvas t
    | 2 => overlayBubblegum canvas
    | 3 => overlayButterflyRiot sine canvas t
    | 4 => overlayHyperdrive sine canvas t
    | 5 => overlayTooMuch canvas
  (Int.range 0 6).foldl (fun canvas i =>
    cartCanvasCircle canvas (145 + i * 6) 171 (if i = which then 2 else 1)
      (if i = which then pal 2 else pal 8)) canvas

end Overlays

section Rendering

variable (sine : Nat → Int)

def legacyFramePhase (frame : UInt64) : Int := (frame % 65536).toNat

inductive CartScenePhase where
  | rows
  | overlay
  deriving DecidableEq, Repr

/-- The context but for the canvas, which `renderLegacyScene` is given and returns. -/
structure CartSceneRenderContext where
  rowStart : Int
  rowEnd : Int
  frame : UInt64
  phase : CartScenePhase

def renderLegacyScene (context : CartSceneRenderContext) (which : SceneIndex) (canvas : CartCanvas) :
    CartCanvas :=
  let frame := legacyFramePhase context.frame
  match context.phase with
  | .rows =>
      let scene := match which with
        | 0 => sceneCandy sine
        | 1 => sceneChecker sine
        | 2 => sceneBubbles sine
        | 3 => sceneRibbons sine
        | 4 => sceneChrome sine
        | 5 => sceneSugar sine
      { canvas with pixels := scene context.rowStart context.rowEnd frame canvas.pixels }
  | .overlay => overlay sine canvas which frame

/-- `low_canvas` over the buffer. -/
def lowCanvas (pixels : Image) : CartCanvas where
  pixels
  width := logicalWidth
  height := logicalHeight
  stride := logicalWidth

def rowJob (which : SceneIndex) (frame : UInt64) (canvas : CartCanvas) (rows : Int × Int) :
    CartCanvas :=
  renderLegacyScene sine { rowStart := rows.1, rowEnd := rows.2, frame, phase := .rows } which canvas

/-- `render_frame` from `row_scene = selected` on, where the workers do their bands in the order of the
list; in inline mode the calling thread does the single band of all rows. -/
def renderSelected (which : SceneIndex) (frame : UInt64) (bands : List (Int × Int)) (low : Image) :
    Image :=
  let canvas := bands.foldl (rowJob sine which frame) (lowCanvas low)
  let context : CartSceneRenderContext :=
    { rowStart := 0, rowEnd := logicalHeight, frame, phase := .overlay }
  (renderLegacyScene sine context which canvas).pixels

end Rendering

end VitaLinuxPort
