import Mathlib.Data.List.Basic

/-!
# Reading a bitmap file

The 24-bit files with a 40-byte information header and no compression. The numbers of the headers are
little-endian; a positive height means that the rows are stored bottom-up, a negative one top-down; a
row is padded to a multiple of four bytes; a pixel is blue, green and red.
-/

namespace VitaLinuxPort

namespace Bitmap

/-- The little-endian number in the bytes from `offset` on. -/
def number (bytes : List UInt8) (offset : Nat) : Nat → Option Nat
  | 0 => some 0
  | count + 1 => do
      let low ← bytes[offset]?
      let high ← number bytes (offset + 1) count
      some (low.toNat + 256 * high)

/-- A number of 32 bits as a signed one. -/
def signed (value : Nat) : Int := if value < 0x80000000 then value else value - 0x100000000

structure Header where
  offBits : Nat
  width : Nat
  height : Int
  bitCount : Nat
  deriving DecidableEq, Repr

def Header.rows (header : Header) : Nat := header.height.natAbs

def Header.BottomUp (header : Header) : Prop := 0 < header.height

instance (header : Header) : Decidable header.BottomUp := inferInstanceAs (Decidable (_ < _))

def Header.rowBytes (header : Header) : Nat := (header.width * header.bitCount + 31) / 32 * 4

/-- The headers of a file of `size` bytes, which are its first 54. -/
def parseHeader (head : List UInt8) (size : Nat) : Option Header := do
  guard (head.take 2 = [0x42, 0x4d])
  guard ((← number head 2 4) = size)
  let offBits ← number head 10 4
  guard ((← number head 14 4) = 40)
  let width ← number head 18 4
  let height ← number head 22 4
  guard ((← number head 26 2) = 1)
  let bitCount ← number head 28 2
  guard (bitCount = 24)
  guard ((← number head 30 4) = 0)
  let header : Header := { offBits, width, height := signed height, bitCount }
  guard (offBits + header.rowBytes * header.rows ≤ size)
  return header

def header (bytes : List UInt8) : Option Header := parseHeader (bytes.take 54) bytes.length

/-- Where the bytes of the pixel in column `x` begin, in row `y` from the top. -/
def Header.offset (header : Header) (x y : Nat) : Nat :=
  let row := if header.BottomUp then header.rows - 1 - y else y
  header.offBits + row * header.rowBytes + 3 * x

/-- Red, green and blue. -/
def pixel (bytes : List UInt8) (header : Header) (x y : Nat) : Option (UInt8 × UInt8 × UInt8) := do
  guard (x < header.width ∧ y < header.rows)
  let blue ← bytes[header.offset x y]?
  let green ← bytes[header.offset x y + 1]?
  let red ← bytes[header.offset x y + 2]?
  return (red, green, blue)

theorem pixel_eq {bytes : List UInt8} {header : Header} {x y : Nat} {red green blue : UInt8}
    (hx : x < header.width) (hy : y < header.rows) (hblue : bytes[header.offset x y]? = some blue)
    (hgreen : bytes[header.offset x y + 1]? = some green)
    (hred : bytes[header.offset x y + 2]? = some red) :
    pixel bytes header x y = some (red, green, blue) := by
  simp [pixel, hx, hy, hblue, hgreen, hred, guard]

end Bitmap

end VitaLinuxPort
