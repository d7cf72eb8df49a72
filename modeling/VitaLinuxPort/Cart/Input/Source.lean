import Mathlib.Data.Fin.VecNotation
import Mathlib.Logic.Function.Basic
import VitaLinuxPort.Machine
import VitaLinuxPort.Cart.InputActions

/-!
# Input sources

The data of the input engine, `cart/include/cart/input.h`, and the axis normalization of
`cart/src/input_normalize.c`. A C array indexed by slot is a function on the slots. Signed
arithmetic is done in the integers and wrapped where the C type of the result is narrower.
-/

namespace VitaLinuxPort

/-- The index of one of the `CART_INPUT_MAX_SOURCES` sources. -/
abbrev Slot := Fin 4

/-- The index of one of the `CART_INPUT_AXIS_COUNT` canonical axes. -/
abbrev AxisSlot := Fin 8

def cartInputNodeMax : Nat := 32

def cartInputNameMax : Nat := 128

def cartInputDefaultDeadzonePct : Int32 := 15

inductive CartInputState where
  | absent
  | connected
  | desync
  deriving DecidableEq, Repr

structure CartInputAxisRange where
  min : Int32
  max : Int32
  deadzonePct : Int32
  deriving DecidableEq, Repr

/-- `rank` is declared but never written by the engine. -/
structure CartInputSource where
  fd : Int
  rank : Int
  state : CartInputState
  generation : UInt32
  node : CString
  name : CString
  heldKeys : UInt64
  axis : AxisSlot → CartInputAxisRange
  axisValid : AxisSlot → Bool
  lastRaw : AxisSlot → Int32

/-- A source as `memset` leaves it. -/
def CartInputSource.zero : CartInputSource where
  fd := 0
  rank := 0
  state := .absent
  generation := 0
  node := []
  name := []
  heldKeys := 0
  axis := fun _ => ⟨0, 0, 0⟩
  axisValid := fun _ => false
  lastRaw := fun _ => 0

def resetSource : CartInputSource := { CartInputSource.zero with fd := -1, state := .absent }

/-- The engine's state. `pending` is the action queue from its front, at most eight long;
`partialBytes` holds the bytes of an incomplete record of each source. -/
structure CartInput where
  source : Slot → CartInputSource
  pending : List CartInputAction
  partialBytes : Slot → List UInt8

structure CartInputFrame where
  axis : AxisSlot → Int16
  axisPresent : AxisSlot → Bool
  axisOwner : AxisSlot → Nat
  heldKeys : UInt64
  connectedMask : UInt32
  generationTotal : UInt32

/-- The system calls that concern an event node's descriptor. `openNode` carries the result of
`open`, negative when it failed, and `read` the number of bytes asked for. -/
inductive Syscall where
  | openNode (result : Int)
  | close (fd : Int)
  | read (fd : Int) (count : Nat)
  | ioctl (fd : Int)
  deriving DecidableEq, Repr

structure AbsInfo where
  value : Int32
  minimum : Int32
  maximum : Int32
  fuzz : Int32
  flat : Int32
  resolution : Int32
  deriving DecidableEq, Repr

/-- `AXIS_CODES`: ABS_X, ABS_Y, ABS_RX, ABS_RY, ABS_Z, ABS_RZ, ABS_HAT0X, ABS_HAT0Y. -/
def axisCodes : AxisSlot → UInt16 := ![0, 1, 3, 4, 2, 5, 16, 17]

def axisSlot (code : UInt16) : Option AxisSlot :=
  (List.finRange 8).find? fun slot => axisCodes slot == code

def bitTest (buffer : List UInt8) (bit : Nat) : Bool :=
  (buffer.getD (bit / 8) 0 >>> UInt8.ofNat (bit % 8)) &&& 1 == 1

def wrapInt32 (value : Int) : Int := Int.bmod value (2 ^ 32)

def cartInputAxisInvalid : Int := -2147483648

def cartInputAxisNormalize (raw : Int32) (range : CartInputAxisRange) : Int :=
  let min := range.min.toInt
  let max := range.max.toInt
  let deadzonePct := range.deadzonePct.toInt
  if max ≤ min ∨ deadzonePct < 0 ∨ deadzonePct > 50 then cartInputAxisInvalid
  else
    let clamped := if raw.toInt < min then min else raw.toInt
    let clamped := if clamped > max then max else clamped
    let span := wrapInt32 (max - min)
    let half := (span * deadzonePct).tdiv 200
    let low := min + span.tdiv 2 - half
    let high := low + 2 * half
    if low ≤ clamped ∧ clamped ≤ high then 0
    else if clamped < low then wrapInt32 (((clamped - low) * 100).tdiv (low - min))
    else wrapInt32 (((clamped - high) * 100).tdiv (max - high))

/-- The ranges normalization accepts. -/
def CartInputAxisRange.Usable (range : CartInputAxisRange) : Prop :=
  range.min.toInt < range.max.toInt ∧ 0 ≤ range.deadzonePct.toInt ∧ range.deadzonePct.toInt ≤ 50

theorem usable_of_normalize_ne {raw : Int32} {range : CartInputAxisRange}
    (h : cartInputAxisNormalize raw range ≠ cartInputAxisInvalid) : range.Usable := by
  by_contra hnot
  apply h
  rw [cartInputAxisNormalize]
  dsimp only
  rw [if_pos]
  unfold CartInputAxisRange.Usable at hnot
  omega

end VitaLinuxPort
