import VitaLinuxPort.Lib.CInt
import VitaLinuxPort.Cart.Input.Discovery

/-!
# The signed arithmetic of the axes

`cart_input_axis_normalize` and the calibration in `probe_snapshot_axes` once more, with every signed
operation checked in the type the C code does it in. Where the checked function has a result no
intermediate value leaves its type.
-/

namespace VitaLinuxPort

open CIntType

/-- `cart_input_axis_normalize`. -/
def cartInputAxisNormalizeChecked (raw : Int32) (range : CartInputAxisRange) : Option Int :=
  let min := range.min.toInt
  let max := range.max.toInt
  let deadzonePct := range.deadzonePct.toInt
  if max ≤ min ∨ deadzonePct < 0 ∨ deadzonePct > 50 then some cartInputAxisInvalid
  else do
    let clamped := if raw.toInt < min then min else raw.toInt
    let clamped := if clamped > max then max else clamped
    let span ← int32.sub max min
    let half ← int64.div (← int64.mul span deadzonePct) 200
    let low ← int64.sub (← int64.add min (← int32.div span 2)) half
    let high ← int64.add low (← int64.mul 2 half)
    if low ≤ clamped ∧ clamped ≤ high then return 0
    else if clamped < low then
      int32.fit (← int64.div (← int64.mul (← int64.sub clamped low) 100) (← int64.sub low min))
    else
      int32.fit (← int64.div (← int64.mul (← int64.sub clamped high) 100) (← int64.sub max high))

/-- The dead zone `probe_snapshot_axes` keeps of an axis. -/
def deadzonePctChecked (span flat : Int) : Option Int :=
  let pct := cartInputDefaultDeadzonePct.toInt
  if span > 0 ∧ flat > 0 then do
    let suggested ← int32.div (← int32.mul flat 200) span
    return if suggested > pct ∧ suggested ≤ 50 then suggested else pct
  else some pct

/-- The range `probe_snapshot_axes` keeps of an axis. -/
def snapshotRangeChecked (info : AbsInfo) : Option CartInputAxisRange := do
  let span ← int32.sub info.maximum.toInt info.minimum.toInt
  let pct ← deadzonePctChecked span info.flat.toInt
  return { min := info.minimum, max := info.maximum, deadzonePct := Int32.ofInt pct }

end VitaLinuxPort
