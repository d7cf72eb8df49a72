import VitaLinuxPort.Cart.Scenes
import VitaLinuxPort.Lib.Painting

/-!
# What the viewer sees

`cart/src/presentation.c`, and `dump_ppm` of `cart/src/pstv-demo-cart.c`. The framebuffer, the logical
frame and the scratch row are lists of pixels; none of the pointers is NULL. In memory a pixel is four
bytes, the lowest first.
-/

namespace VitaLinuxPort

def cartPresentationLogicalWidth : Nat := 320

def cartPresentationLogicalHeight : Nat := 180

def cartPresentationScale : Nat := 4

def cartPresentationFramebufferWidth : Nat := cartPresentationLogicalWidth * cartPresentationScale

def cartPresentationFramebufferHeight : Nat := cartPresentationLogicalHeight * cartPresentationScale

/-- The inner loops over `x` and `k`. -/
def expandRow (logical : Image) (y : Nat) (row : Image) : Image :=
  (List.range cartPresentationLogicalWidth).foldl (fun row x =>
    (List.range cartPresentationScale).foldl (fun row k =>
      row.set (x * cartPresentationScale + k)
        (logical.getD (y * cartPresentationLogicalWidth + x) 0)) row) row

/-- The loop over `k` that copies the row; `memcpy` is given a whole row. -/
def copyRow (framebuffer row : Image) (y : Nat) : Image :=
  (List.range cartPresentationScale).foldl (fun framebuffer k =>
    Painting.overwrite framebuffer
      ((y * cartPresentationScale + k) * cartPresentationFramebufferWidth)
      (row.take cartPresentationFramebufferWidth)) framebuffer

/-- The body of the outer loop, on the framebuffer and the scratch row. -/
def upscaleRow (logical : Image) (state : Image × Image) (y : Nat) : Image × Image :=
  let row := expandRow logical y state.2
  (copyRow state.1 row y, row)

def cartPresentationUpscale (framebuffer logical row : Image) : Image × Image :=
  (List.range cartPresentationLogicalHeight).foldl (upscaleRow logical) (framebuffer, row)

/-- A pixel in memory. -/
def pixelBytes (pixel : UInt32) : List UInt8 :=
  [pixel.toUInt8, (pixel >>> 8).toUInt8, (pixel >>> 16).toUInt8, (pixel >>> 24).toUInt8]

section Dump

def scale : Nat := 4

/-- What the `fprintf` of `dump_ppm` writes. -/
def ppmHeader : List UInt8 :=
  ("P6\n".toList ++ Nat.toDigits 10 (logicalWidth * scale) ++ " ".toList ++
    Nat.toDigits 10 (logicalHeight * scale) ++ "\n255\n".toList).map (.ofNat ·.toNat)

/-- What its loops write. -/
def ppmRaster (low : Image) : List UInt8 :=
  (List.range logicalHeight).flatMap fun y =>
    (List.range scale).flatMap fun _ =>
      (List.range logicalWidth).flatMap fun x =>
        (List.range scale).flatMap fun _ =>
          let c := low.getD (y * logicalWidth + x) 0
          [(c &&& 255).toUInt8, ((c >>> 8) &&& 255).toUInt8, ((c >>> 16) &&& 255).toUInt8]

/-- The file that `dump_ppm` writes when it could open it and no write fails. -/
def dumpPpm (low : Image) : List UInt8 := ppmHeader ++ ppmRaster low

end Dump

end VitaLinuxPort
