import VitaLinuxPort.Cart.Runtime
import VitaLinuxPort.Cart.Transition
import VitaLinuxPort.Cart.InputActions

/-!
# The render loop

The `while (running)` loop of `main` in `cart/src/pstv-demo-cart.c`, one step for each stretch of
code between two things the program learns from outside: a clock reading, the SIGUSR1 flag, a polled
action, the end of its sleep. What the scenes draw is a parameter: `render scene frame` turns the
old contents of a buffer into the new ones.

The log records, in order, every render of a fade endpoint and every frame sent to the framebuffer.
-/

namespace VitaLinuxPort

def fps : UInt64 := 30

/-- `cart_scene_count`, the length of `builtin_scenes`. -/
def cartSceneCount : Nat := 6

/-- The hold of a scene chosen with SIGUSR1, one hour. -/
def signalHoldNs : UInt64 := 3600 * 1000000000

/-- The hold of a scene chosen with a key, eight seconds. -/
def inputHoldNs : UInt64 := 8 * 1000000000

/-- Where in its body the loop is: before the first clock reading, before it looks at
`next_scene_requested`, before `cart_input_poll`, before the test that may begin a fade, before the
frame is drawn, after it was written to the framebuffer and before the second clock reading, in
`clock_nanosleep`, or after the loop. -/
inductive LoopPoint where
  | head
  | signal
  | input
  | change
  | frame
  | shown
  | asleep
  | left
  deriving DecidableEq, Repr

inductive LoopEvent where
  | renderFrom (scene : Nat) (frame : UInt64)
  | renderTo (scene : Nat) (frame : UInt64)
  | publish (image : Image)
  deriving DecidableEq, Repr

structure RenderLoop where
  point : LoopPoint
  running : Bool
  nowNs : UInt64
  runtime : CartRuntime
  transition : CartTransition
  displayedScene : Nat
  low : Image
  lowFrom : Image
  lowTo : Image
  log : List LoopEvent

/-- What the loop learns at a step: a clock reading, the value of `next_scene_requested` and the action
of a poll, with `none` where the call failed, and at the end of the sleep whether it ended without an
error and whether a signal cleared `running`. At `go` it learns nothing. -/
inductive LoopInput where
  | clock (reading : Option UInt64)
  | signal (nextSceneRequested : Bool)
  | polled (action : Option CartInputAction)
  | go
  | slept (ok stopped : Bool)
  deriving Repr

/-- `render_frame`, on the buffer `low_canvas` points to. -/
def renderFrame (render : Nat → UInt64 → Image → Image) (which : Nat) (frame : UInt64)
    (buffer : Image) : Image :=
  if which < cartSceneCount then render which frame buffer else buffer

namespace RenderLoop

/-- A clock reading and the tick it is handed to. Either failing leaves the loop. -/
def clockAndTick (next : LoopPoint) (reading : Option UInt64) (s : RenderLoop) : RenderLoop :=
  match reading with
  | none => { s with point := .left }
  | some nowNs =>
      let ticked := cartRuntimeTick s.runtime nowNs
      { s with
        nowNs := nowNs
        runtime := ticked.2
        point := if ticked.1 = 0 then next else .left }

section Requests

variable [Target]

def takeSignal (nextSceneRequested : Bool) (s : RenderLoop) : RenderLoop :=
  { s with
    runtime :=
      if nextSceneRequested then cartRuntimeRequestNext s.runtime s.nowNs signalHoldNs
      else s.runtime
    point := .input }

/-- The actions `main` knows; the others leave the loop as it is. -/
def takeInput (polled : Option CartInputAction) (s : RenderLoop) : RenderLoop :=
  match polled with
  | some .quit => { s with running := false, point := .change }
  | some .next =>
      { s with
        runtime := cartRuntimeRequestNext s.runtime s.nowNs inputHoldNs
        point := .change }
  | some .previous =>
      { s with
        runtime := cartRuntimeRequestPrevious s.runtime s.nowNs inputHoldNs
        point := .change }
  | _ => { s with point := .change }

end Requests

variable (render : Nat → UInt64 → Image → Image)

/-- Begin a fade when the runtime selects another scene than the one displayed and none is in
flight, and sample both its endpoints. -/
def beginFade (s : RenderLoop) : RenderLoop :=
  if s.runtime.sceneIndex ≠ s.displayedScene ∧ !cartTransitionActive s.transition then
    let transition := cartTransitionBegin s.displayedScene s.runtime.sceneIndex
    if cartTransitionSourcesNeedRender transition then
      { s with
        point := .frame
        transition := cartTransitionMarkSourcesRendered transition
        lowFrom := renderFrame render transition.fromScene s.runtime.frame s.lowFrom
        lowTo := renderFrame render transition.toScene s.runtime.frame s.lowTo
        log := s.log ++ [.renderFrom transition.fromScene s.runtime.frame,
          .renderTo transition.toScene s.runtime.frame] }
    else { s with point := .frame, transition := transition }
  else { s with point := .frame }

/-- Blend or render into `low`, and write it to the framebuffer. -/
def drawFrame (s : RenderLoop) : RenderLoop :=
  if cartTransitionActive s.transition then
    let low := cartTransitionBlend s.lowFrom s.lowTo s.transition.elapsedFrames
    let transition := cartTransitionAdvance s.transition
    { s with
      point := .shown
      low := low
      transition := transition
      displayedScene :=
        if !cartTransitionActive transition then transition.toScene else s.displayedScene
      log := s.log ++ [.publish low] }
  else
    let low := renderFrame render s.displayedScene s.runtime.frame s.low
    { s with point := .shown, low := low, log := s.log ++ [.publish low] }

/-- The end of the sleep and the loop test. -/
def wake (ok stopped : Bool) (s : RenderLoop) : RenderLoop :=
  let running := s.running && !stopped
  { s with running := running, point := if ok && running then .head else .left }

variable [Target]

/-- One step of the loop; `none` where the input is not what the loop waits for. -/
def step (s : RenderLoop) (input : LoopInput) : Option RenderLoop :=
  match s.point, input with
  | .head, .clock reading => some (s.clockAndTick .signal reading)
  | .signal, .signal nextSceneRequested => some (s.takeSignal nextSceneRequested)
  | .input, .polled action => some (s.takeInput action)
  | .change, .go => some (s.beginFade render)
  | .frame, .go => some (s.drawFrame render)
  | .shown, .clock reading => some (s.clockAndTick .asleep reading)
  | .asleep, .slept ok stopped => some (s.wake ok stopped)
  | _, _ => none

/-- The loop as `main` enters it: the runtime initialised at the first clock reading, no fade, and
whatever the three static buffers hold. -/
def start (nowNs : UInt64) (low lowFrom lowTo : Image) : Option RenderLoop :=
  (cartRuntimeInit cartSceneCount nowNs (1000000000 / fps) (8 * 1000000000)
      cartRuntimeMinChangeNs).map fun runtime =>
    { point := .head
      running := true
      nowNs := nowNs
      runtime := runtime
      transition := .zero
      displayedScene := runtime.sceneIndex
      low := low
      lowFrom := lowFrom
      lowTo := lowTo
      log := [] }

end RenderLoop

end VitaLinuxPort
