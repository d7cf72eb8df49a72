import VitaLinuxPort.Lib.Run
import VitaLinuxPort.Cart.RenderLoop
import VitaLinuxPort.Proof.Runtime.Calls

/-!
# What a step of the render loop can do

The runtime changes at the clock, signal and input steps only, by one of its own calls; the fade
record, the displayed scene, the endpoint buffers and the log change at the two drawing steps only.
`step_cases` says so once, and every invariant of the loop is a case analysis on it.
-/

namespace VitaLinuxPort

namespace RenderLoop

variable [Target]

def runtimeCall (s : RenderLoop) : LoopInput → Option RuntimeCall
  | .clock (some nowNs) => some (.tick nowNs)
  | .signal true => some (.requestNext s.nowNs signalHoldNs)
  | .polled (some .next) => some (.requestNext s.nowNs inputHoldNs)
  | .polled (some .previous) => some (.requestPrevious s.nowNs inputHoldNs)
  | _ => none

def runtimeAfter (s : RenderLoop) (input : LoopInput) : CartRuntime :=
  match s.runtimeCall input with
  | some call => call.apply s.runtime
  | none => s.runtime

def drawing (s : RenderLoop) : CartTransition × Nat × Image × Image × List LoopEvent :=
  (s.transition, s.displayedScene, s.lowFrom, s.lowTo, s.log)

variable {render : Nat → UInt64 → Image → Image} {s t : RenderLoop} {input : LoopInput}

theorem clockAndTick_spec (next : LoopPoint) (reading : Option UInt64) (s : RenderLoop) :
    (s.clockAndTick next reading).drawing = s.drawing ∧
      (s.clockAndTick next reading).runtime = s.runtimeAfter (.clock reading) := by
  cases reading with
  | none => exact ⟨rfl, rfl⟩
  | some nowNs => exact ⟨rfl, rfl⟩

theorem takeSignal_spec (requested : Bool) (s : RenderLoop) :
    (s.takeSignal requested).drawing = s.drawing ∧
      (s.takeSignal requested).runtime = s.runtimeAfter (.signal requested) := by
  cases requested with
  | false => exact ⟨rfl, rfl⟩
  | true => exact ⟨rfl, rfl⟩

theorem takeInput_spec (action : Option CartInputAction) (s : RenderLoop) :
    (s.takeInput action).drawing = s.drawing ∧
      (s.takeInput action).runtime = s.runtimeAfter (.polled action) := by
  cases action with
  | none => exact ⟨rfl, rfl⟩
  | some action => cases action <;> exact ⟨rfl, rfl⟩

omit [Target] in
theorem beginFade_runtime (render : Nat → UInt64 → Image → Image) (s : RenderLoop) :
    (s.beginFade render).runtime = s.runtime := by
  unfold beginFade
  split
  · dsimp only
    split <;> rfl
  · rfl

omit [Target] in
theorem drawFrame_runtime (render : Nat → UInt64 → Image → Image) (s : RenderLoop) :
    (s.drawFrame render).runtime = s.runtime := by
  unfold drawFrame
  split <;> rfl

/-- A step is a runtime call that leaves the drawing alone, or one of the two drawing steps, which
leave the runtime alone. -/
theorem step_cases (h : s.step render input = some t) :
    (t.drawing = s.drawing ∧ t.runtime = s.runtimeAfter input) ∨
      (input = .go ∧ t.runtime = s.runtime ∧
        (s.point = .change ∧ t = s.beginFade render ∨
          s.point = .frame ∧ t = s.drawFrame render)) := by
  unfold step at h
  split at h
  · exact .inl (Option.some.inj h ▸ clockAndTick_spec _ _ s)
  · exact .inl (Option.some.inj h ▸ takeSignal_spec _ s)
  · exact .inl (Option.some.inj h ▸ takeInput_spec _ s)
  · next hpoint =>
      cases Option.some.inj h
      exact .inr ⟨rfl, beginFade_runtime render s, .inl ⟨hpoint, rfl⟩⟩
  · next hpoint =>
      cases Option.some.inj h
      exact .inr ⟨rfl, drawFrame_runtime render s, .inr ⟨hpoint, rfl⟩⟩
  · exact .inl (Option.some.inj h ▸ clockAndTick_spec _ _ s)
  · exact .inl (Option.some.inj h ▸ ⟨rfl, rfl⟩)
  · cases h

def Steps (render : Nat → UInt64 → Image → Image) (s : RenderLoop) (input : LoopInput)
    (t : RenderLoop) : Prop :=
  s.step render input = some t

/-- The runtime of a running loop: its periods are positive, one of its scenes is on, and a held
scene is the one on. -/
structure RuntimeOk (runtime : CartRuntime) : Prop where
  held : runtime.Held
  count : runtime.sceneCount = cartSceneCount
  index_lt : runtime.sceneIndex < cartSceneCount
  frame_ne : runtime.framePeriodNs ≠ 0
  period_ne : runtime.scenePeriodNs ≠ 0

theorem RuntimeOk.apply {runtime : CartRuntime} (ok : RuntimeOk runtime) (call : RuntimeCall) :
    RuntimeOk (call.apply runtime) := by
  obtain ⟨_, hheld, hsettings⟩ := call.apply_limited ok.held
  obtain ⟨hsame, _, hframe, hperiod, _⟩ := CartRuntime.settings_eq_iff.mp hsettings
  have hcount := hsame.trans ok.count
  have hlt := call.apply_sceneIndex_lt ok.held (ok.count ▸ ok.index_lt)
  exact ⟨hheld, hcount, hcount ▸ hlt, hframe ▸ ok.frame_ne, hperiod ▸ ok.period_ne⟩

theorem RuntimeOk.apply_changes_iff {runtime : CartRuntime} (ok : RuntimeOk runtime)
    (call : RuntimeCall) :
    (call.apply runtime).sceneIndex ≠ runtime.sceneIndex ↔
      runtime.changeAllowed (call.actsAt runtime) = true ∧ call.Wants runtime := by
  have hsize : 2 * runtime.sceneCount ≤ 2 ^ Target.sizeBits := by
    have := two_pow_16_le_sizeBits
    have hsix : cartSceneCount = 6 := rfl
    rw [ok.count]
    omega
  exact call.apply_changes_iff ok.held (ok.count ▸ ok.index_lt) ok.frame_ne ok.period_ne
    (by rw [ok.count]; decide) hsize

theorem RuntimeOk.runtimeAfter (ok : RuntimeOk s.runtime) (input : LoopInput) :
    RuntimeOk (s.runtimeAfter input) := by
  unfold RenderLoop.runtimeAfter
  split
  · next call _ => exact ok.apply call
  · exact ok

theorem RuntimeOk.step (ok : RuntimeOk s.runtime) (h : s.step render input = some t) :
    RuntimeOk t.runtime := by
  rcases step_cases h with ⟨_, hruntime⟩ | ⟨_, hruntime, _⟩
  · rw [hruntime]
    exact ok.runtimeAfter input
  · rw [hruntime]
    exact ok

omit [Target] in
theorem start_spec {nowNs : UInt64} {low lowFrom lowTo : Image}
    (h : RenderLoop.start nowNs low lowFrom lowTo = some s) :
    RuntimeOk s.runtime ∧ s.drawing = (.zero, 0, lowFrom, lowTo, []) ∧ s.point = .head ∧
      s.runtime.originNs = nowNs ∧ s.runtime.minChangeNs = cartRuntimeMinChangeNs := by
  unfold RenderLoop.start at h
  obtain ⟨runtime, hinit, rfl⟩ := Option.map_eq_some_iff.mp h
  obtain ⟨hheld, _, hscene, hsettings⟩ := cartRuntimeInit_some hinit
  simp only [CartRuntime.settings, Prod.mk.injEq] at hsettings
  obtain ⟨hcount, horigin, hframe, hperiod, hmin⟩ := hsettings
  refine ⟨⟨hheld, hcount, ?_, ?_, ?_⟩, ?_, rfl, horigin, hmin⟩
  · show runtime.sceneIndex < cartSceneCount
    rw [hscene]
    decide
  · show runtime.framePeriodNs ≠ 0
    rw [hframe]
    decide
  · show runtime.scenePeriodNs ≠ 0
    rw [hperiod]
    decide
  · show (CartTransition.zero, runtime.sceneIndex, lowFrom, lowTo, []) = _
    rw [hscene]

def outcome (render : Nat → UInt64 → Image → Image) (nowNs : UInt64) (inputs : List LoopInput) :
    Option RenderLoop :=
  (RenderLoop.start nowNs [] [] []).bind fun s => execute (step render) s inputs

theorem run_of_outcome {nowNs : UInt64} {inputs : List LoopInput}
    (h : outcome render nowNs inputs = some t) :
    ∃ s, RenderLoop.start nowNs [] [] [] = some s ∧ Run (Steps render) s inputs t := by
  obtain ⟨s, hstart, hrun⟩ := Option.bind_eq_some_iff.mp h
  exact ⟨s, hstart, Run.of_execute hrun⟩

end RenderLoop

end VitaLinuxPort
