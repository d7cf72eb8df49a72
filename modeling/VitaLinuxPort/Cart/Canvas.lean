import Mathlib.Data.Int.Range
import VitaLinuxPort.Machine

/-!
# Pixels and canvases

`cart/src/canvas.c`. A pixel is 32 bits, red in the lowest byte; a buffer is the list of its pixels in
row order. A canvas is a buffer whose rows are `stride` pixels apart. The drawing functions take `int`
coordinates and go on in 64 bits, where nothing they compute overflows.
-/

namespace VitaLinuxPort

abbrev Image := List UInt32

def clampChannel (value : Int) : Int :=
  if value < 0 then 0 else if value > 255 then 255 else value

def cartRgba (red green blue : Int) : UInt32 :=
  UInt32.ofNat (clampChannel red).toNat ||| (UInt32.ofNat (clampChannel green).toNat <<< 8) |||
    (UInt32.ofNat (clampChannel blue).toNat <<< 16) ||| 0xff000000

def channels (pixel : UInt32) : Int × Int × Int :=
  ((pixel &&& 0xff).toNat, ((pixel >>> 8) &&& 0xff).toNat, ((pixel >>> 16) &&& 0xff).toNat)

/-- One channel of a blend; the shift rounds towards minus infinity. -/
def mixChannel (source target : Int) (amount : Nat) : Int :=
  source + (((target - source) * amount) >>> (8 : Nat))

def cartMix (source target : UInt32) (amount : Nat) : UInt32 :=
  let amount := if amount > 256 then 256 else amount
  let (sourceRed, sourceGreen, sourceBlue) := channels source
  let (targetRed, targetGreen, targetBlue) := channels target
  cartRgba (mixChannel sourceRed targetRed amount) (mixChannel sourceGreen targetGreen amount)
    (mixChannel sourceBlue targetBlue amount)

/-- `pixels` is never NULL in the model. -/
structure CartCanvas where
  pixels : Image
  width : Nat
  height : Nat
  stride : Nat

def CartCanvas.put (canvas : CartCanvas) (index : Nat) (color : UInt32) : CartCanvas :=
  { canvas with pixels := canvas.pixels.set index color }

variable [Target]

def sizeMax : Nat := 2 ^ Target.sizeBits - 1

def cartCanvasValid (canvas : CartCanvas) : Bool :=
  !(canvas.width == 0 || canvas.height == 0 || canvas.stride < canvas.width) &&
    !(canvas.height > sizeMax / canvas.stride) && !(canvas.stride * canvas.height > sizeMax / 4)

def cartCanvasPx (canvas : CartCanvas) (x y : Int) (color : UInt32) : CartCanvas :=
  if !cartCanvasValid canvas ∨ x < 0 ∨ y < 0 ∨ x.toNat ≥ canvas.width ∨ y.toNat ≥ canvas.height then
    canvas
  else canvas.put (y.toNat * canvas.stride + x.toNat) color

omit [Target] in
/-- The two loops of the drawing functions, over the rows from `top` and the columns from `left`. -/
def CartCanvas.fill (canvas : CartCanvas) (left right top bottom : Int)
    (inside : Int → Int → Bool) (color : UInt32) : CartCanvas :=
  (Int.range top bottom).foldl (fun canvas row =>
    (Int.range left right).foldl (fun canvas column =>
      if inside row column then canvas.put (row.toNat * canvas.stride + column.toNat) color
      else canvas) canvas) canvas

def cartCanvasRect (canvas : CartCanvas) (x y width height : Int) (color : UInt32) : CartCanvas :=
  if !cartCanvasValid canvas ∨ width ≤ 0 ∨ height ≤ 0 then canvas
  else
    let x1 := x + width
    let y1 := y + height
    let x0 := if x < 0 then 0 else x
    let y0 := if y < 0 then 0 else y
    let x1 := if x1 > canvas.width then (canvas.width : Int) else x1
    let y1 := if y1 > canvas.height then (canvas.height : Int) else y1
    if x0 ≥ x1 ∨ y0 ≥ y1 then canvas
    else canvas.fill x0 x1 y0 y1 (fun _ _ => true) color

def cartCanvasCircle (canvas : CartCanvas) (centerX centerY radius : Int) (color : UInt32) :
    CartCanvas :=
  if !cartCanvasValid canvas ∨ radius < 0 then canvas
  else
    let left := centerX - radius
    let top := centerY - radius
    let right := centerX + radius
    let bottom := centerY + radius
    let left := if left < 0 then 0 else left
    let top := if top < 0 then 0 else top
    let right := if right ≥ canvas.width then (canvas.width : Int) - 1 else right
    let bottom := if bottom ≥ canvas.height then (canvas.height : Int) - 1 else bottom
    if left > right ∨ top > bottom then canvas
    else
      canvas.fill left (right + 1) top (bottom + 1)
        (fun row column =>
          (column - centerX) * (column - centerX) + (row - centerY) * (row - centerY) ≤
            radius * radius)
        color

section Ppm

omit [Target] in
/-- What the `fprintf` of `cart_canvas_write_ppm` writes. -/
def CartCanvas.ppmHeader (canvas : CartCanvas) : List UInt8 :=
  ("P6\n".toList ++ Nat.toDigits 10 canvas.width ++ " ".toList ++ Nat.toDigits 10 canvas.height ++
    "\n255\n".toList).map fun c => .ofNat c.toNat

omit [Target] in
/-- `rgb`. -/
def ppmPixel (color : UInt32) : List UInt8 :=
  [(color &&& 0xff).toUInt8, ((color >>> 8) &&& 0xff).toUInt8, ((color >>> 16) &&& 0xff).toUInt8]

omit [Target] in
/-- What its loops write. -/
def CartCanvas.ppmRaster (canvas : CartCanvas) : List UInt8 :=
  (List.range canvas.height).flatMap fun row =>
    (List.range canvas.width).flatMap fun column =>
      ppmPixel (canvas.pixels.getD (row * canvas.stride + column) 0)

/-- The bytes that `cart_canvas_write_ppm` writes to a stream on which no write fails; `none` where it
returns -1 instead. -/
def cartCanvasWritePpm (canvas : CartCanvas) : Option (List UInt8) :=
  if !cartCanvasValid canvas then none else some (canvas.ppmHeader ++ canvas.ppmRaster)

end Ppm

end VitaLinuxPort
