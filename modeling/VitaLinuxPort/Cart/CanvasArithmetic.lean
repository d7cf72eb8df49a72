import VitaLinuxPort.Cart.Canvas
import VitaLinuxPort.Lib.CInt

/-!
# The drawing functions, step by step

`cart_canvas_rect` and `cart_canvas_circle` once more, with the limits of what they compute: a result
is there only where no step in `int64_t` leaves that type and every index, computed in `size_t`, is
one of the buffer's.
-/

namespace VitaLinuxPort

open CIntType

variable [Target]

/-- `(size_t)row * stride + (size_t)column`. -/
def CartCanvas.place (canvas : CartCanvas) (row column : Int) : Nat :=
  sizeAdd (row.toNat * canvas.stride % 2 ^ Target.sizeBits) column.toNat

def CartCanvas.checkedPut (canvas : CartCanvas) (row column : Int) (color : UInt32) :
    Option CartCanvas :=
  if canvas.place row column < canvas.pixels.length then
    some (canvas.put (canvas.place row column) color)
  else none

/-- The two loops, each with the increment of its variable. -/
def CartCanvas.checkedFill (canvas : CartCanvas) (left right top bottom : Int)
    (inside : Int → Int → Option Bool) (color : UInt32) : Option CartCanvas :=
  (Int.range top bottom).foldlM (fun canvas row => do
    let canvas ← (Int.range left right).foldlM (fun canvas column => do
      let hit ← inside row column
      let canvas ← if hit then canvas.checkedPut row column color else some canvas
      let _ ← int64.add column 1
      return canvas) canvas
    let _ ← int64.add row 1
    return canvas) canvas

def checkedCanvasRect (canvas : CartCanvas) (x y width height : Int) (color : UInt32) :
    Option CartCanvas :=
  if !cartCanvasValid canvas ∨ width ≤ 0 ∨ height ≤ 0 then some canvas
  else do
    let x1 ← int64.add x width
    let y1 ← int64.add y height
    let x0 := if x < 0 then 0 else x
    let y0 := if y < 0 then 0 else y
    let canvasWidth ← int64.fit canvas.width
    let canvasHeight ← int64.fit canvas.height
    let x1 := if x1 > canvasWidth then canvasWidth else x1
    let y1 := if y1 > canvasHeight then canvasHeight else y1
    if x0 ≥ x1 ∨ y0 ≥ y1 then some canvas
    else canvas.checkedFill x0 x1 y0 y1 (fun _ _ => some true) color

/-- The distance test of the circle. -/
def checkedInside (centerX centerY squaredRadius row column : Int) : Option Bool := do
  let deltaY ← int64.sub row centerY
  let deltaX ← int64.sub column centerX
  let squaredX ← int64.mul deltaX deltaX
  let squaredY ← int64.mul deltaY deltaY
  let distance ← int64.add squaredX squaredY
  return distance ≤ squaredRadius

def checkedCanvasCircle (canvas : CartCanvas) (centerX centerY radius : Int) (color : UInt32) :
    Option CartCanvas :=
  if !cartCanvasValid canvas ∨ radius < 0 then some canvas
  else do
    let left ← int64.sub centerX radius
    let top ← int64.sub centerY radius
    let right ← int64.add centerX radius
    let bottom ← int64.add centerY radius
    let left := if left < 0 then 0 else left
    let top := if top < 0 then 0 else top
    let canvasWidth ← int64.fit canvas.width
    let lastColumn ← int64.sub canvasWidth 1
    let right := if right ≥ canvasWidth then lastColumn else right
    let canvasHeight ← int64.fit canvas.height
    let lastRow ← int64.sub canvasHeight 1
    let bottom := if bottom ≥ canvasHeight then lastRow else bottom
    if left > right ∨ top > bottom then some canvas
    else do
      let squaredRadius ← int64.mul radius radius
      canvas.checkedFill left (right + 1) top (bottom + 1)
        (checkedInside centerX centerY squaredRadius) color

end VitaLinuxPort
