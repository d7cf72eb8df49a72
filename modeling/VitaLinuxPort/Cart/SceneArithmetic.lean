import VitaLinuxPort.Cart.Scenes
import VitaLinuxPort.Lib.CExpression

/-!
# The arithmetic of the scenes, step by step

The row passes and the overlays of `cart/scenes/scene_2d_legacy.c` once more, with the limits of what
they compute: a result is there only where no step in `int` leaves that type, no divisor is zero and
every index is one of its array's. The unsigned steps may wrap, and what the drawing functions compute
is left to them.
-/

namespace VitaLinuxPort

open CExpression

section Colors

/-- `PAL[index]`. -/
def checkedPal (index : CExpression) : Option UInt32 := do
  let index ← index
  if 0 ≤ index then palette[index.toNat]? else none

def checkedMixChannel (source target : Int) (amount : Nat) : CExpression :=
  source + shiftRight ((target - source) * (amount : Int)) 8

def checkedCartMix (source target : UInt32) (amount : Nat) : Option UInt32 := do
  let amount := if amount > 256 then 256 else amount
  let (sourceRed, sourceGreen, sourceBlue) := channels source
  let (targetRed, targetGreen, targetBlue) := channels target
  let red ← checkedMixChannel sourceRed targetRed amount
  let green ← checkedMixChannel sourceGreen targetGreen amount
  let blue ← checkedMixChannel sourceBlue targetBlue amount
  return cartRgba red green blue

/-- `mix(PAL[a],PAL[b],t)`. -/
def checkedMix (a b t : CExpression) : Option UInt32 := do
  let source ← checkedPal a
  let target ← checkedPal b
  let t ← t
  checkedCartMix source target (if t < 0 then 0 else t.toNat)

end Colors

section Rows

variable (sine : Nat → Int)

/-- `sins` has 2048 entries. -/
def checkedSi (x : CExpression) : CExpression := do
  let index ← bitAnd x 2047
  if 0 ≤ index ∧ index < 2048 then some (sine index.toNat) else none

/-- `low` has `LW*LH` pixels. -/
def checkedRowPass (y0 y1 : Int) (pixel : Int → Int → Option UInt32) (low : Image) : Option Image :=
  loop y0 y1 (fun low y => loop 0 logicalWidth (fun low x => do
    let color ← pixel x y
    let index ← (y * (logicalWidth : Int) + x : CExpression)
    if 0 ≤ index ∧ index < 320 * 180 then some (low.set index.toNat color) else none) low) low

def checkedCandyPixel (t x y : Int) : Option UInt32 := do
  let dx ← (x - 160 : CExpression)
  let dy ← (y - 90 : CExpression)
  let d ← shiftRight (dx * dx + dy * dy) 4
  let warp ← (checkedSi sine (bitAnd (x * 9 + t * 11) 2047) +
    checkedSi sine (bitAnd (y * 13 - t * 7) 2047) : CExpression)
  let band ← bitAnd (shiftRight (d + shiftRight warp 7 - t * 8) 4) 7
  checkedMix (band % 5) ((band + 1) % 5) (shiftRight (checkedSi sine (d * 5 + t * 17) + 1024) 3)

def checkedCheckerPixel (t x y : Int) : Option UInt32 := do
  let yy ← (y + shiftRight (checkedSi sine (x * 10 + t * 14)) 8 : CExpression)
  let xx ← (x + shiftRight (checkedSi sine (y * 13 - t * 9)) 8 : CExpression)
  let q ← bitAnd (bitXor (shiftRight xx 3) (shiftRight yy 3)) 1
  let glow ← shiftRight (checkedSi sine (x * 6 + y * 8 + t * 12) + 1024) 4
  checkedMix (if q ≠ 0 then 0 else 4) (if q ≠ 0 then 2 else 5) glow

def checkedBubbleX (t i : Int) : CExpression :=
  160 + shiftRight (checkedSi sine (t * (7 + i) + i * 273) * (45 + i * 5)) 10

def checkedBubbleY (t i : Int) : CExpression :=
  90 + shiftRight (checkedSi sine (t * (9 + i) + i * 411) * (28 + i * 4)) 10

/-- The arrays `bx` and `by`, which are filled before the rows. -/
def checkedBubbles (t : Int) : Option (List (Int × Int)) :=
  loop 0 7 (fun bubbles i => do
    let x ← checkedBubbleX sine t i
    let y ← checkedBubbleY sine t i
    return bubbles ++ [(x, y)]) []

/-- The body of the loop over the bubbles. -/
def checkedField (bubbles : List (Int × Int)) (x y field i : Int) : CExpression := do
  let (bx, by') ← bubbles[i.toNat]?
  let dx ← (x - bx : CExpression)
  let dy ← (y - by' : CExpression)
  (field + (9000 + i * 700) / (18 + dx * dx + dy * dy) : CExpression)

def checkedBubblesPixel (bubbles : List (Int × Int)) (t x y : Int) : Option UInt32 := do
  let field ← loop 0 7 (checkedField bubbles x y) 0
  let wave ← shiftRight (checkedSi sine (x * 8 - y * 6 + t * 18) + 1024) 5
  if field > 22 then checkedMix 1 5 (bitAnd (field * 9 + wave) 255)
  else checkedMix 8 6 wave

def checkedRibbonsPixel (t x y : Int) : Option UInt32 := do
  let wave ← (90 + shiftRight (checkedSi sine (x * 12 + t * 13)) 5 : CExpression)
  let wave2 ← (90 + shiftRight (checkedSi sine (x * 9 - t * 17 + 500)) 4 : CExpression)
  let d1 ← CExpression.abs (y - wave)
  let d2 ← CExpression.abs (y - wave2)
  let base ← checkedMix 3 1 (y * 255 / (logicalHeight : Int))
  let base ← (if d1 < 8 then checkedMix 0 2 (d1 * 30) else some base)
  if d2 < 5 then checkedMix 6 2 (d2 * 45) else some base

def checkedChromePixel (x y : Int) : Option UInt32 :=
  if y < 95 then do
    let glow ← shiftRight (checkedSi sine (x * 5 + y * 4) + 1024) 4
    checkedMix 8 0 glow
  else do
    let z ← (y - 94 : CExpression)
    let horizon ← bitAnd (z * 13) 31
    let van ← ((x - 160) * 90 / (z + 8) : CExpression)
    let vertical ← (CExpression.abs van % 42 : CExpression)
    if horizon < 2 ∨ vertical < 2 then checkedPal 2 else checkedMix 6 8 z

def checkedSugarPixel (t x y : Int) : Option UInt32 := do
  let a ← checkedSi sine (x * 10 + t * 13)
  let b ← checkedSi sine (y * 14 - t * 9)
  let c ← checkedSi sine ((x + y) * 7 + t * 5)
  let v ← ((a + b + c + 3072) / 12 : CExpression)
  let stripe ← bitAnd (shiftRight (x + y + shiftRight (checkedSi sine (t * 17 + x * 3)) 7) 3) 3
  checkedMix ((stripe + 0) % 5) ((stripe + 2) % 5) (bitAnd v 255)

/-- The rows of the scenes. -/
def checkedRows (which : SceneIndex) (y0 y1 t : Int) (low : Image) : Option Image :=
  match which with
  | 0 => checkedRowPass y0 y1 (checkedCandyPixel sine t) low
  | 1 => checkedRowPass y0 y1 (checkedCheckerPixel sine t) low
  | 2 => do
      let bubbles ← checkedBubbles sine t
      checkedRowPass y0 y1 (checkedBubblesPixel sine bubbles t) low
  | 3 => checkedRowPass y0 y1 (checkedRibbonsPixel sine t) low
  | 4 => checkedRowPass y0 y1 (checkedChromePixel sine) low
  | 5 => checkedRowPass y0 y1 (checkedSugarPixel sine t) low

end Rows

/-- `shape[y][x]`, without the 0 behind each row. -/
def checkedHeartAt (y x : CExpression) : Option Char := do
  let y ← y
  let x ← x
  if 0 ≤ y ∧ 0 ≤ x then do
    let row ← heartShape[y.toNat]?
    row[x.toNat]?
  else none

/-- `border`; the tests of the neighbours are made from the left until one holds. -/
def checkedBorder (y x : Int) : Option Bool :=
  if x = 0 ∨ x = 7 ∨ y = 0 ∨ y = 6 then some true
  else do
    let left ← (if x > 0 then checkedHeartAt y (x - 1) else some '1')
    if left = '0' then some true
    else do
      let right ← (if x < 7 then checkedHeartAt y (x + 1) else some '1')
      if right = '0' then some true
      else do
        let above ← (if y > 0 then checkedHeartAt (y - 1) x else some '1')
        return above = '0'

def checkedFontIndex (c : Char) : CExpression :=
  if 'A' ≤ c ∧ c ≤ 'Z' then (c.toNat : Int) - ('A'.toNat : Int)
  else if '0' ≤ c ∧ c ≤ '9' then 26 + (c.toNat : Int) - ('0'.toNat : Int)
  else 36

/-- `FONT[idx][yy] & (1 << (4-xx))`. -/
def checkedFontBit (c : Char) (yy xx : Int) : Option Bool := do
  let idx ← checkedFontIndex c
  let count ← (4 - xx : CExpression)
  if 0 ≤ idx ∧ 0 ≤ yy ∧ 0 ≤ count ∧ count < 31 then do
    let glyph ← font[idx.toNat]?
    let row ← glyph[yy.toNat]?
    return row.testBit count.toNat
  else none

variable [Target]

section Drawing

def checkedPx (canvas : CartCanvas) (x y : CExpression) (c : UInt32) : Option CartCanvas := do
  return cartCanvasPx canvas (← x) (← y) c

def checkedRect (canvas : CartCanvas) (x y w h : CExpression) (c : UInt32) : Option CartCanvas := do
  return cartCanvasRect canvas (← x) (← y) (← w) (← h) c

def checkedCircle (canvas : CartCanvas) (cx cy r : CExpression) (c : UInt32) :
    Option CartCanvas := do
  return cartCanvasCircle canvas (← cx) (← cy) (← r) c

/-- The body of the loops of `heart`. -/
def checkedHeartCell (cx cy s : Int) (c edge : UInt32) (canvas : CartCanvas) (y x : Int) :
    Option CartCanvas := do
  let cell ← checkedHeartAt y x
  if cell = '1' then do
    let border ← checkedBorder y x
    checkedRect canvas (cx + (x - 4) * s) (cy + (y - 3) * s) s s (if border then edge else c)
  else some canvas

def checkedHeart (canvas : CartCanvas) (cx cy s : Int) (c edge : UInt32) : Option CartCanvas := do
  let canvas ← loop 0 8 (fun canvas y =>
    loop 0 8 (checkedHeartCell cx cy s c edge · y ·) canvas) canvas
  if s > 1 then checkedRect canvas (cx - 2 * s) (cy - 2 * s) s s 0xffffffff else some canvas

def checkedStar (canvas : CartCanvas) (cx cy r : Int) (c : UInt32) : Option CartCanvas := do
  let first ← (-r : CExpression)
  loop first (r + 1) (fun canvas i => do
    let canvas ← checkedPx canvas (cx + i) cy c
    let canvas ← checkedPx canvas cx (cy + i) c
    let distance ← CExpression.abs i
    let bound ← (r / 2 + 1 : CExpression)
    if distance < bound then do
      let canvas ← checkedPx canvas (cx + i) (cy + i) c
      checkedPx canvas (cx + i) (cy - i) c
    else some canvas) canvas

def checkedFlower (canvas : CartCanvas) (cx cy s : Int) (petal center : UInt32) :
    Option CartCanvas := do
  let canvas ← checkedCircle canvas (cx - s) cy s petal
  let canvas ← checkedCircle canvas (cx + s) cy s petal
  let canvas ← checkedCircle canvas cx (cy - s) s petal
  let canvas ← checkedCircle canvas cx (cy + s) s petal
  checkedCircle canvas cx cy s center

/-- The drawing of a character of a text. -/
def checkedGlyph (canvas : CartCanvas) (x y : Int) (char : Char) (scale : Int) (c : UInt32) :
    Option CartCanvas :=
  loop 0 7 (fun canvas yy => loop 0 5 (fun canvas xx => do
    let bit ← checkedFontBit char yy xx
    if bit then checkedRect canvas (x + xx * scale) (y + yy * scale) scale scale c
    else some canvas) canvas) canvas

/-- `text` without a shadow. -/
def checkedTextGlyphs (canvas : CartCanvas) (x y : Int) (s : CString) (scale : Int) (c : UInt32) :
    Option CartCanvas :=
  match s with
  | [] => some canvas
  | char :: rest => do
      let canvas ← (if char = ' ' then some canvas else checkedGlyph canvas x y char scale c)
      let x ← (x + 6 * scale : CExpression)
      checkedTextGlyphs canvas x y rest scale c

def checkedText (canvas : CartCanvas) (x y : Int) (s : CString) (scale : Int) (c shadow : UInt32) :
    Option CartCanvas := do
  let canvas ←
    (if shadow ≠ 0 then do
      let left ← (x + scale : CExpression)
      let top ← (y + scale : CExpression)
      checkedTextGlyphs canvas left top s scale shadow
    else some canvas)
  checkedTextGlyphs canvas x y s scale c

def checkedTextCenter (canvas : CartCanvas) (y : Int) (s : CString) (scale : Int)
    (c shadow : UInt32) : Option CartCanvas := do
  let length ← CIntType.int32.fit s.length
  let width ← ((length * 6 - 1) * scale : CExpression)
  let x ← (((logicalWidth : Int) - width) / 2 : CExpression)
  checkedText canvas x y s scale c shadow

/-- `text_center(y,s,scale,PAL[c],PAL[8])`. -/
def checkedCaption (canvas : CartCanvas) (y : Int) (s : CString) (scale : Int) (c : CExpression) :
    Option CartCanvas := do
  checkedTextCenter canvas y s scale (← checkedPal c) (← checkedPal 8)

end Drawing

section Overlays

variable (sine : Nat → Int)

def checkedOverlayCandy (canvas : CartCanvas) (t : Int) : Option CartCanvas := do
  let canvas ← loop 0 18 (fun canvas i => do
    let r := rng32 (unsigned i * 991)
    let move ← (t * (1 + i % 3) : CExpression)
    let x := signed ((r + unsigned move) % 320)
    let offset ← (i * 17 : CExpression)
    let y := signed (((r >>> 11) + unsigned offset) % 180)
    let radius ← (2 + i % 3 : CExpression)
    checkedStar canvas x y radius (← checkedPal 2)) canvas
  let canvas ← checkedHeart canvas 160 82 5 (← checkedPal 0) (← checkedPal 8)
  checkedCaption canvas 139 "CANDY VORTEX".toList 3 2

def checkedOverlayGirlMode (canvas : CartCanvas) (t : Int) : Option CartCanvas := do
  let canvas ← loop 0 24 (fun canvas i => do
    let r := rng32 (unsigned i * 1777)
    let x := signed (r % 340 - 10)
    let move ← (t * (2 + i % 4) : CExpression)
    let y := signed (((r >>> 10) + unsigned move) % 210 - 15)
    let third ← (i % 3 : CExpression)
    let s ← (1 + (if third = 0 then 1 else 0 : Int) : CExpression)
    checkedHeart canvas x y s (← checkedPal (i % 5)) (← checkedPal 8)) canvas
  let canvas ← checkedCaption canvas 72 "GIRL MODE".toList 5 2
  checkedCaption canvas 119 "MAXIMUM".toList 4 0

def checkedOverlayBubblegum (canvas : CartCanvas) : Option CartCanvas := do
  let canvas ← loop 0 20 (fun canvas i => do
    let r := rng32 (unsigned i * 31337)
    let radius ← (1 + i % 3 : CExpression)
    checkedStar canvas (signed (r % 320)) (signed ((r >>> 10) % 180)) radius (← checkedPal 2)) canvas
  let canvas ← checkedCaption canvas 14 "BUBBLEGUM".toList 5 2
  checkedCaption canvas 145 "OVERDRIVE".toList 4 0

/-- The body of the first loop of the overlay of `BUTTERFLY RIOT`. -/
def checkedButterfly (t : Int) (canvas : CartCanvas) (i : Int) : Option CartCanvas := do
  let x ← ((i * 29 + t * (i % 3 + 1)) % 350 - 15 : CExpression)
  let y ← (70 + shiftRight (checkedSi sine (t * (8 + i) + i * 193) * 55) 10 : CExpression)
  let left ← checkedPal ((i + 0) % 5)
  let right ← checkedPal ((i + 3) % 5)
  let canvas ← checkedCircle canvas (x - 4) (y - 2) 3 left
  let canvas ← checkedCircle canvas (x + 4) (y - 2) 3 right
  let canvas ← checkedCircle canvas (x - 3) (y + 3) 2 left
  let canvas ← checkedCircle canvas (x + 3) (y + 3) 2 right
  let canvas ← checkedRect canvas (x - 1) (y - 4) 2 9 (← checkedPal 8)
  let turn ← ((i + t / 3) % 4 : CExpression)
  if turn = 0 then do
    let cx ← (x - 10 : CExpression)
    let cy ← (y + 5 : CExpression)
    checkedStar canvas cx cy 2 (← checkedPal 2)
  else some canvas

def checkedOverlayButterflyRiot (canvas : CartCanvas) (t : Int) : Option CartCanvas := do
  let canvas ← loop 0 24 (checkedButterfly sine t) canvas
  let canvas ← loop 0 12 (fun canvas i => do
    let cx ← ((i * 41 + t) % 340 - 10 : CExpression)
    let cy ← (20 + i * 23 % 140 : CExpression)
    checkedFlower canvas cx cy 2 (← checkedPal ((i + 1) % 5)) (← checkedPal 2)) canvas
  checkedCaption canvas 143 "BUTTERFLY RIOT".toList 3 2

/-- The body of the inner loop of the overlay of `HYPERDRIVE`. -/
def checkedBallPoint (cx cy r y : Int) (canvas : CartCanvas) (x : Int) : Option CartCanvas := do
  let distance ← (x * x + y * y : CExpression)
  let limit ← (r * r : CExpression)
  if distance ≤ limit then do
    let band ← ((y + r) * 10 / (2 * r + 1) : CExpression)
    checkedPx canvas (cx + x) (cy + y) (← checkedPal (band % 8))
  else some canvas

def checkedOverlayHyperdrive (canvas : CartCanvas) (t : Int) : Option CartCanvas := do
  let cx ← (160 + shiftRight (checkedSi sine (t * 9) * 28) 10 : CExpression)
  let cy ← (67 + shiftRight (checkedSi sine (t * 13) * 9) 10 : CExpression)
  let r : Int := 39
  let first ← (-r : CExpression)
  let canvas ← loop first (r + 1)
    (fun canvas y => loop first (r + 1) (checkedBallPoint cx cy r y) canvas) canvas
  let canvas ← checkedCircle canvas (cx - 13) (cy - 15) 7 0xffffffff
  let starX ← (cx - 17 : CExpression)
  let starY ← (cy - 18 : CExpression)
  let canvas ← checkedStar canvas starX starY 6 0xffffffff
  let canvas ← checkedCaption canvas 11 "SHE HER".toList 6 2
  checkedCaption canvas 143 "HYPERDRIVE".toList 4 0

def checkedOverlayTooMuch (canvas : CartCanvas) : Option CartCanvas := do
  let canvas ← loop 0 35 (fun canvas i => do
    let r := rng32 (unsigned i * 7331)
    let x := signed (r % 320)
    let y := signed ((r >>> 10) % 180)
    let third ← (i % 3 : CExpression)
    let s ← (1 + i % 3 : CExpression)
    if third = 0 then checkedHeart canvas x y s (← checkedPal (i % 5)) (← checkedPal 8)
    else do
      let size ← (2 + s : CExpression)
      if third = 1 then checkedFlower canvas x y size (← checkedPal (i % 5)) (← checkedPal 2)
      else checkedStar canvas x y size (← checkedPal 2)) canvas
  let canvas ← checkedCaption canvas 54 "TOO MUCH".toList 6 2
  checkedCaption canvas 104 "IS ENOUGH".toList 5 9

/-- The dots that `overlay` draws for the scenes. -/
def checkedDots (canvas : CartCanvas) (which : SceneIndex) : Option CartCanvas :=
  loop 0 6 (fun canvas i => do
    let color ← checkedPal (if i = which then 2 else 8)
    checkedCircle canvas (145 + i * 6) 171 (if i = which then 2 else 1) color) canvas

def checkedOverlay (canvas : CartCanvas) (which : SceneIndex) (t : Int) : Option CartCanvas := do
  let canvas ← (match which with
    | 0 => checkedOverlayCandy canvas t
    | 1 => checkedOverlayGirlMode canvas t
    | 2 => checkedOverlayBubblegum canvas
    | 3 => checkedOverlayButterflyRiot sine canvas t
    | 4 => checkedOverlayHyperdrive sine canvas t
    | 5 => checkedOverlayTooMuch canvas)
  checkedDots canvas which

end Overlays

/-- `render_legacy_scene`. -/
def checkedRenderLegacyScene (sine : Nat → Int) (context : CartSceneRenderContext)
    (which : SceneIndex) (canvas : CartCanvas) : Option CartCanvas := do
  let frame ← CIntType.int32.fit (context.frame % 65536).toNat
  match context.phase with
  | .rows =>
      let pixels ← checkedRows sine which context.rowStart context.rowEnd frame canvas.pixels
      return { canvas with pixels }
  | .overlay => checkedOverlay sine canvas which frame

end VitaLinuxPort
