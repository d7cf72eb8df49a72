import VitaLinuxPort.Cart.Canvas

/-!
# Crossfades

`cart/src/transition.c`: the record of a fade in flight, the eased weight of each of its steps, and
the blend of the two endpoint buffers.
-/

namespace VitaLinuxPort

def cartTransitionFrames : UInt64 := 15

def cartTransitionWeightMax : Nat := 256

def fixedOne : UInt64 := 1024

structure CartTransition where
  fromScene : Nat
  toScene : Nat
  elapsedFrames : UInt64
  active : Bool
  sourcesReady : Bool
  deriving DecidableEq, Repr

/-- The record `main` clears before its loop. -/
def CartTransition.zero : CartTransition := ⟨0, 0, 0, false, false⟩

def cartTransitionBegin (fromScene toScene : Nat) : CartTransition where
  fromScene := fromScene
  toScene := toScene
  elapsedFrames := 0
  active := fromScene ≠ toScene
  sourcesReady := false

def cartTransitionActive (transition : CartTransition) : Bool := transition.active

def cartTransitionAdvance (transition : CartTransition) : CartTransition :=
  if !transition.active then transition
  else
    let elapsedFrames := transition.elapsedFrames + 1
    { transition with
      elapsedFrames := elapsedFrames
      active := transition.active && !(elapsedFrames ≥ cartTransitionFrames) }

def cartTransitionSourcesNeedRender (transition : CartTransition) : Bool :=
  transition.active && !transition.sourcesReady

def cartTransitionMarkSourcesRendered (transition : CartTransition) : CartTransition :=
  if transition.active then { transition with sourcesReady := true } else transition

@[simp] theorem cartTransitionAdvance_fromScene (transition : CartTransition) :
    (cartTransitionAdvance transition).fromScene = transition.fromScene := by
  rw [cartTransitionAdvance]
  split <;> rfl

@[simp] theorem cartTransitionAdvance_toScene (transition : CartTransition) :
    (cartTransitionAdvance transition).toScene = transition.toScene := by
  rw [cartTransitionAdvance]
  split <;> rfl

@[simp] theorem cartTransitionMarkSourcesRendered_toScene (transition : CartTransition) :
    (cartTransitionMarkSourcesRendered transition).toScene = transition.toScene := by
  rw [cartTransitionMarkSourcesRendered]
  split <;> rfl

/-- Smoothstep, `3t² - 2t³`, in fixed point. -/
def cartTransitionWeight (step : UInt64) : Nat :=
  if step = 0 then 0
  else if step ≥ cartTransitionFrames then cartTransitionWeightMax
  else
    let t := step * fixedOne / cartTransitionFrames
    let eased := (3 * t * t * fixedOne - 2 * t * t * t) / (fixedOne * fixedOne)
    let eased := (eased * UInt64.ofNat cartTransitionWeightMax + fixedOne / 2) / fixedOne
    if eased > UInt64.ofNat cartTransitionWeightMax then cartTransitionWeightMax else eased.toNat

/-- `cart_transition_blend` into a buffer as long as its two sources. -/
def cartTransitionBlend (source target : Image) (step : UInt64) : Image :=
  let amount := cartTransitionWeight step
  if amount = 0 then source
  else if amount ≥ cartTransitionWeightMax then target
  else List.zipWith (cartMix · · amount) source target

example : (List.range 16).map (fun step => cartTransitionWeight (UInt64.ofNat step)) =
    [0, 3, 12, 26, 45, 66, 90, 115, 141, 166, 189, 211, 229, 243, 253, 256] := by decide

end VitaLinuxPort
