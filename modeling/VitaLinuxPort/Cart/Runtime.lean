import VitaLinuxPort.Machine

/-!
# The attract-loop runtime

`cart/src/runtime.c`: which scene is on, when the next frame is due, and the photosensitivity guard
that spaces scene changes. Times are nanoseconds in `uint64_t`; arithmetic on them wraps where the C
code's does.
-/

namespace VitaLinuxPort

def cartRuntimeMinChangeNs : UInt64 := 500000000

def uint64Max : UInt64 := 0xffffffffffffffff

structure CartRuntime where
  sceneCount : Nat
  sceneIndex : Nat
  manualSceneIndex : Nat
  originNs : UInt64
  framePeriodNs : UInt64
  scenePeriodNs : UInt64
  manualHoldUntilNs : UInt64
  minChangeNs : UInt64
  lastChangeNs : UInt64
  hadChange : Bool
  nextDeadlineNs : UInt64
  frame : UInt64
  droppedDeadlines : UInt64
  sleepNs : UInt64
  manualHoldActive : Bool
  deriving DecidableEq, Repr

def addSaturating (left right : UInt64) : UInt64 :=
  if left > uint64Max - right then uint64Max else left + right

/-- `cart_runtime_init`; `none` is its -1. -/
def cartRuntimeInit (sceneCount : Nat)
    (originNs framePeriodNs scenePeriodNs minChangeNs : UInt64) : Option CartRuntime :=
  if sceneCount = 0 ∨ framePeriodNs = 0 ∨ scenePeriodNs = 0 ∨
      originNs ≥ uint64Max - framePeriodNs then
    none
  else
    some
      { sceneCount := sceneCount
        sceneIndex := 0
        manualSceneIndex := 0
        originNs := originNs
        framePeriodNs := framePeriodNs
        scenePeriodNs := scenePeriodNs
        manualHoldUntilNs := 0
        minChangeNs := minChangeNs
        lastChangeNs := 0
        hadChange := false
        nextDeadlineNs := originNs + framePeriodNs
        frame := 0
        droppedDeadlines := 0
        sleepNs := framePeriodNs
        manualHoldActive := false }

namespace CartRuntime

/-- The photosensitivity guard. A zero cooldown disables it. -/
def changeAllowed (runtime : CartRuntime) (nowNs : UInt64) : Bool :=
  if runtime.minChangeNs = 0 then true
  else if !runtime.hadChange then true
  else if nowNs < runtime.lastChangeNs then false
  else nowNs - runtime.lastChangeNs ≥ runtime.minChangeNs

def recordChange (runtime : CartRuntime) (nowNs : UInt64) : CartRuntime :=
  { runtime with lastChangeNs := nowNs, hadChange := true }

def clampNow (runtime : CartRuntime) (nowNs : UInt64) : UInt64 :=
  if nowNs < runtime.originNs then runtime.originNs else nowNs

def automatic (runtime : CartRuntime) (nowNs : UInt64) : Nat :=
  ((nowNs - runtime.originNs) / runtime.scenePeriodNs).toNat % runtime.sceneCount

/-- The frame number and the expiry of a manual hold, the first part of a tick. -/
def expireHold (runtime : CartRuntime) (nowNs : UInt64) : CartRuntime :=
  { runtime with
    frame := (nowNs - runtime.originNs) / runtime.framePeriodNs
    manualHoldActive := runtime.manualHoldActive && !(nowNs ≥ runtime.manualHoldUntilNs) }

/-- The scene part of a tick: a held scene is re-asserted, otherwise the attract loop's scene is
committed if it is another one and the guard allows the change. -/
def selectScene (runtime : CartRuntime) (nowNs : UInt64) : CartRuntime :=
  if runtime.manualHoldActive then
    { runtime with sceneIndex := runtime.manualSceneIndex }
  else if runtime.automatic nowNs ≠ runtime.sceneIndex then
    if runtime.changeAllowed nowNs then
      { runtime.recordChange nowNs with sceneIndex := runtime.automatic nowNs }
    else runtime
  else runtime

def advanceDeadline (runtime : CartRuntime) (nowNs : UInt64) : Int × CartRuntime :=
  if nowNs < runtime.nextDeadlineNs then
    (0, { runtime with sleepNs := runtime.nextDeadlineNs - nowNs })
  else if nowNs > uint64Max - runtime.framePeriodNs then (-1, runtime)
  else
    let lateNs := nowNs - runtime.nextDeadlineNs
    if lateNs < runtime.framePeriodNs then
      if runtime.nextDeadlineNs > uint64Max - runtime.framePeriodNs then (-1, runtime)
      else
        let nextDeadlineNs := runtime.nextDeadlineNs + runtime.framePeriodNs
        (0, { runtime with
          nextDeadlineNs := nextDeadlineNs
          sleepNs := nextDeadlineNs - nowNs })
    else
      let nextDeadlineNs := nowNs + runtime.framePeriodNs
      (0, { runtime with
        droppedDeadlines := runtime.droppedDeadlines + lateNs / runtime.framePeriodNs
        nextDeadlineNs := nextDeadlineNs
        sleepNs := nextDeadlineNs - nowNs })

/-- The deadline part of a tick writes the deadline fields only, whether it succeeds or not. -/
theorem advanceDeadline_frame (runtime : CartRuntime) (nowNs : UInt64) :
    ∃ nextDeadlineNs droppedDeadlines sleepNs,
      (runtime.advanceDeadline nowNs).2 =
        { runtime with
          nextDeadlineNs := nextDeadlineNs
          droppedDeadlines := droppedDeadlines
          sleepNs := sleepNs } := by
  unfold advanceDeadline
  split
  · exact ⟨_, _, _, rfl⟩
  · split
    · exact ⟨_, _, _, rfl⟩
    · dsimp only
      split
      · split <;> exact ⟨_, _, _, rfl⟩
      · exact ⟨_, _, _, rfl⟩

theorem clampNow_of_le {runtime : CartRuntime} {nowNs : UInt64} (h : runtime.originNs ≤ nowNs) :
    runtime.clampNow nowNs = nowNs := by
  rw [clampNow, if_neg (UInt64.not_lt.mpr h)]

end CartRuntime

/-- `cart_runtime_tick`: its return value and what it leaves, also when it fails. -/
def cartRuntimeTick (runtime : CartRuntime) (nowNs : UInt64) : Int × CartRuntime :=
  if runtime.sceneCount = 0 ∨ runtime.framePeriodNs = 0 ∨ runtime.scenePeriodNs = 0 then
    (-1, runtime)
  else
    let nowNs := runtime.clampNow nowNs
    ((runtime.expireHold nowNs).selectScene nowNs).advanceDeadline nowNs

/-- What a next and a previous request share: commit `manualSceneIndex` if the guard allows a
change, and hold it. -/
def CartRuntime.requestScene (runtime : CartRuntime) (manualSceneIndex : Nat)
    (nowNs holdNs : UInt64) : CartRuntime :=
  if runtime.sceneCount = 0 then runtime
  else if !runtime.changeAllowed nowNs then runtime
  else
    let runtime :=
      { (if manualSceneIndex ≠ runtime.sceneIndex then runtime.recordChange nowNs else runtime) with
        manualSceneIndex := manualSceneIndex
        sceneIndex := manualSceneIndex }
    if holdNs = 0 then { runtime with manualHoldActive := false }
    else
      { runtime with
        manualHoldUntilNs := addSaturating nowNs holdNs
        manualHoldActive := true }

variable [Target]

def cartRuntimeRequestNext (runtime : CartRuntime) (nowNs holdNs : UInt64) : CartRuntime :=
  runtime.requestScene (sizeAdd runtime.sceneIndex 1 % runtime.sceneCount) nowNs holdNs

def cartRuntimeRequestPrevious (runtime : CartRuntime) (nowNs holdNs : UInt64) : CartRuntime :=
  runtime.requestScene
    (sizeSub (sizeAdd runtime.sceneIndex runtime.sceneCount) 1 % runtime.sceneCount) nowNs holdNs

end VitaLinuxPort
