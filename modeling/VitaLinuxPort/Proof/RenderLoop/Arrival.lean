import VitaLinuxPort.Proof.RenderLoop.Fades

/-!
# A selected scene arrives on the screen

The loop looks at the selected scene only where it may begin a fade, and a fade in flight is never
interrupted. A change committed while another fade is running is not lost for that: as long as the
runtime keeps selecting the scene, each frame is either one of the fade still in flight, at most
fifteen, or one of the fade to the scene, another fifteen. `pending` counts the frames that are left.
-/

namespace VitaLinuxPort

def LoopEvent.isPublish : LoopEvent → Bool
  | .publish _ => true
  | _ => false

namespace RenderLoop

variable {render : Nat → UInt64 → Image → Image} {s t : RenderLoop}

/-- The frames sent to the framebuffer so far, one in each iteration. -/
def framesShown (s : RenderLoop) : Nat := s.log.countP LoopEvent.isPublish

/-- The frames to draw before `scene` is on the screen, if it stays selected. -/
def pending (scene : Nat) (s : RenderLoop) : Nat :=
  if s.transition.active then
    (15 - s.transition.elapsedFrames.toNat) + if s.transition.toScene = scene then 0 else 15
  else if s.displayedScene = scene then 0
  else if s.point = .frame then 16
  else 15

theorem pending_of_active (s : RenderLoop) {scene : Nat} (hactive : s.transition.active = true) :
    pending scene s =
      (15 - s.transition.elapsedFrames.toNat) + if s.transition.toScene = scene then 0 else 15 :=
  if_pos hactive

theorem pending_of_idle (s : RenderLoop) {scene : Nat} (hidle : s.transition.active = false) :
    pending scene s =
      if s.displayedScene = scene then 0 else if s.point = .frame then 16 else 15 := by
  rw [pending, hidle, if_neg Bool.false_ne_true]

theorem pending_le (scene : Nat) (s : RenderLoop) : pending scene s ≤ 30 := by
  unfold pending
  split
  · split <;> omega
  · split
    · omega
    · split <;> omega

theorem pending_of_drawing_eq (scene : Nat) (hdrawing : t.drawing = s.drawing)
    (hpoint : t.point ≠ .frame) : pending scene t ≤ pending scene s := by
  simp only [drawing, Prod.mk.injEq] at hdrawing
  obtain ⟨htransition, hdisplayed, _⟩ := hdrawing
  unfold pending
  rw [htransition, hdisplayed, if_neg hpoint]
  split
  · exact Nat.le_refl _
  · split
    · exact Nat.le_refl _
    · split <;> omega

/-- Where a fade may begin, with the scene selected, one begins if it is needed. -/
theorem pending_beginFade (render : Nat → UInt64 → Image → Image) {scene : Nat}
    (hselected : s.runtime.sceneIndex = scene) :
    framesShown (s.beginFade render) = framesShown s ∧
      pending scene (s.beginFade render) ≤ pending scene s := by
  by_cases hkeep : s.runtime.sceneIndex = s.displayedScene ∨ s.transition.active = true
  · rw [beginFade_of_idle render hkeep]
    refine ⟨rfl, ?_⟩
    cases hactive : s.transition.active with
    | true => rw [pending_of_active s hactive, pending_of_active { s with point := .frame } hactive]
    | false =>
        have hdisplayed : s.displayedScene = scene :=
          (hkeep.resolve_right (by simp [hactive])).symm.trans hselected
        rw [pending_of_idle { s with point := .frame } hactive, if_pos hdisplayed]
        exact Nat.zero_le _
  · obtain ⟨hother, hactive⟩ := not_or.mp hkeep
    rw [Bool.not_eq_true] at hactive
    rw [beginFade_of_change render hother hactive, pending_of_active _ rfl,
      pending_of_idle s hactive, if_pos hselected,
      if_neg (fun hdisplayed => hother (hselected.trans hdisplayed.symm))]
    refine ⟨by simp [framesShown, LoopEvent.isPublish], ?_⟩
    show 15 ≤ if s.point = .frame then 16 else 15
    split
    · decide
    · decide

/-- A frame of the fade in flight is one frame less to draw, and a frame that is drawn without a
fade is not one of those that are left. -/
theorem pending_drawFrame (scene : Nat) {origin : Nat} {segments : List Segment}
    (shown : Shown render origin segments s) (hpoint : s.point = .frame) :
    framesShown (s.drawFrame render) = framesShown s + 1 ∧
      pending scene (s.drawFrame render) ≤ pending scene s - 1 := by
  cases hactive : s.transition.active with
  | true =>
      have hlt := (shown.inFlight hactive).elapsed_lt
      obtain ⟨hsucc, hcontinues⟩ := advance_active hactive hlt
      have hbound : s.transition.elapsedFrames.toNat < 15 := UInt64.lt_iff_toNat_lt.mp hlt
      rw [drawFrame_of_active render hactive]
      refine ⟨by simp [framesShown, LoopEvent.isPublish], ?_⟩
      rw [pending_of_active s hactive]
      cases hmore : (cartTransitionAdvance s.transition).active with
      | true =>
          rw [pending_of_active _ hmore, hsucc, cartTransitionAdvance_toScene]
          omega
      | false =>
          -- the last frame of the fade: its target is on the screen
          rw [pending_of_idle _ hmore, if_neg Bool.false_ne_true]
          dsimp only
          split
          · omega
          · rw [if_neg (by decide)]
            omega
  | false =>
      rw [drawFrame_of_idle shown.displayed_lt hactive]
      refine ⟨by simp [framesShown, LoopEvent.isPublish], ?_⟩
      rw [pending_of_idle s hactive, if_pos hpoint, pending_of_idle]
      · dsimp only
        split
        · omega
        · rw [if_neg (by decide)]
      · exact hactive

theorem drawFrame_point (render : Nat → UInt64 → Image → Image) (s : RenderLoop) :
    (s.drawFrame render).point = .shown := by
  unfold drawFrame
  split <;> rfl

variable [Target] {input : LoopInput}

omit [Target] in
theorem clockAndTick_point_ne {next : LoopPoint} (hnext : next ≠ .frame) (reading : Option UInt64)
    (s : RenderLoop) : (s.clockAndTick next reading).point ≠ .frame := by
  unfold clockAndTick
  split
  · nofun
  · dsimp only
    split
    · exact hnext
    · nofun

theorem takeInput_point (polled : Option CartInputAction) (s : RenderLoop) :
    (s.takeInput polled).point = .change := by
  unfold takeInput
  split <;> rfl

omit [Target] in
theorem wake_point_ne (ok stopped : Bool) (s : RenderLoop) :
    (s.wake ok stopped).point ≠ .frame := by
  unfold wake
  dsimp only
  split <;> decide

/-- The loop gets to the point where it draws only from the one where a fade may begin. -/
theorem point_of_step_frame (h : s.step render input = some t) (hpoint : t.point = .frame) :
    s.point = .change ∧ t = s.beginFade render := by
  unfold step at h
  split at h
  · cases Option.some.inj h
    exact absurd hpoint (clockAndTick_point_ne (by decide) _ s)
  · cases Option.some.inj h
    exact absurd hpoint nofun
  · cases Option.some.inj h
    rw [takeInput_point] at hpoint
    exact absurd hpoint (by decide)
  · next hchange => exact ⟨hchange, (Option.some.inj h).symm⟩
  · cases Option.some.inj h
    have hshown := drawFrame_point render s
    rw [hpoint] at hshown
    exact absurd hshown (by decide)
  · cases Option.some.inj h
    exact absurd hpoint (clockAndTick_point_ne (by decide) _ s)
  · cases Option.some.inj h
    exact absurd hpoint (wake_point_ne _ _ s)
  · cases h

/-- Whenever the loop looks at the selected scene in the run from `s`, it is `scene`. -/
def Selects (render : Nat → UInt64 → Image → Image) (scene : Nat) (s : RenderLoop)
    (inputs : List LoopInput) : Prop :=
  ∀ past t, past <+: inputs → Run (Steps render) s past t → t.point = .change →
    t.runtime.sceneIndex = scene

/-- With the scene selected each step shows a frame and has one less pending, or shows none and has
no more pending. -/
theorem pending_step {scene origin : Nat} {segments : List Segment}
    (shown : Shown render origin segments s)
    (hselected : s.point = .change → s.runtime.sceneIndex = scene) (h : Steps render s input t) :
    framesShown s ≤ framesShown t ∧
      pending scene t ≤ pending scene s - (framesShown t - framesShown s) := by
  by_cases hframe : t.point = .frame
  · obtain ⟨hpoint, rfl⟩ := point_of_step_frame h hframe
    obtain ⟨hframes, hpending⟩ := pending_beginFade render (hselected hpoint)
    omega
  rcases step_cases h with ⟨hdrawing, _⟩ | ⟨_, _, ⟨hpoint, rfl⟩ | ⟨hpoint, rfl⟩⟩
  · have hless := pending_of_drawing_eq scene hdrawing hframe
    simp only [drawing, Prod.mk.injEq] at hdrawing
    have hframes : framesShown t = framesShown s := by rw [framesShown, hdrawing.2.2.2.2, framesShown]
    omega
  · obtain ⟨hframes, hpending⟩ := pending_beginFade render (hselected hpoint)
    omega
  · obtain ⟨hframes, hpending⟩ := pending_drawFrame scene shown hpoint
    omega

/-- In a run in which the scene stays selected, what is pending goes down by a frame with every
frame shown. -/
theorem pending_run {scene origin : Nat} {inputs : List LoopInput} (ok : RuntimeOk s.runtime)
    (shown : ∃ segments, Shown render origin segments s) (run : Run (Steps render) s inputs t)
    (hselected : Selects render scene s inputs) :
    (RuntimeOk t.runtime ∧ ∃ segments, Shown render origin segments t) ∧
      framesShown s ≤ framesShown t ∧
      pending scene t ≤ pending scene s - (framesShown t - framesShown s) := by
  refine run.rank_le (P := fun u => RuntimeOk u.runtime ∧ ∃ segments, Shown render origin segments u)
    ⟨ok, shown⟩ fun past a u v hpre hrun hu hstep => ?_
  obtain ⟨hok, segments, hshown⟩ := hu
  have hlook := hselected past u ((List.prefix_append past [a]).trans hpre) hrun
  exact ⟨⟨hok.step hstep, Shown.step ⟨segments, hshown⟩ hok hstep⟩, pending_step hshown hlook hstep⟩

omit [Target] in
theorem arrived_of_pending {scene origin : Nat} {segments : List Segment}
    (shown : Shown render origin segments s) (hnone : pending scene s = 0) :
    s.transition.active = false ∧ s.displayedScene = scene := by
  cases hactive : s.transition.active with
  | true =>
      have hbound := UInt64.lt_iff_toNat_lt.mp (shown.inFlight hactive).elapsed_lt
      have hframes : cartTransitionFrames.toNat = 15 := rfl
      rw [pending_of_active s hactive] at hnone
      omega
  | false =>
      rw [pending_of_idle s hactive] at hnone
      refine ⟨rfl, ?_⟩
      by_contra hother
      rw [if_neg hother] at hnone
      split at hnone <;> omega

/-- From any reachable state of the loop, once thirty frames have been shown while the runtime kept
selecting a scene, the scene is on the screen with no fade in flight; and as long as the runtime
still selects it, every further frame is a steady frame of it. -/
theorem selected_scene_arrives {nowNs : UInt64} {low lowFrom lowTo : Image} {s u v : RenderLoop}
    {past inputs : List LoopInput} {scene : Nat}
    (hstart : RenderLoop.start nowNs low lowFrom lowTo = some s)
    (reach : Run (Steps render) s past u) (run : Run (Steps render) u inputs v)
    (hselected : Selects render scene u inputs) (hframes : framesShown u + 30 ≤ framesShown v) :
    v.transition.active = false ∧ v.displayedScene = scene ∧
      ∀ later w x, Run (Steps render) v later w → Selects render scene v later →
        w.point = .frame → Steps render w .go x →
        x.log = w.log ++ [.publish (render scene w.runtime.frame w.low)] ∧
          x.transition.active = false ∧ x.displayedScene = scene := by
  obtain ⟨hok, hshown⟩ := shown_of_run hstart reach
  obtain ⟨⟨hokv, _, hshownv⟩, hmore, hless⟩ := pending_run hok hshown run hselected
  have hnone : pending scene v = 0 := by
    have := pending_le scene u
    omega
  obtain ⟨hidle, hdisplayed⟩ := arrived_of_pending hshownv hnone
  refine ⟨hidle, hdisplayed, fun later w x hlater hstill hpoint hstep => ?_⟩
  obtain ⟨⟨_, _, hshownw⟩, _, hlessw⟩ := pending_run hokv ⟨_, hshownv⟩ hlater hstill
  obtain ⟨hidlew, hdisplayedw⟩ := arrived_of_pending hshownw (Nat.le_zero.mp (hnone ▸ hlessw.trans (Nat.sub_le _ _)))
  have hdraw : x = w.drawFrame render := by
    unfold Steps step at hstep
    rw [hpoint] at hstep
    exact (Option.some.inj hstep).symm
  rw [hdraw, drawFrame_of_idle hshownw.displayed_lt hidlew, hdisplayedw]
  exact ⟨rfl, hidlew, rfl⟩

/-- What `Selects` asks, checked step by step along a run that does not end where the loop looks. -/
theorem selects_of_throughout {scene : Nat} {inputs : List LoopInput}
    (run : Run (Steps render) s inputs t) (hend : t.point ≠ .change)
    (h : Throughout (step render) (fun s _ => s.point = .change → s.runtime.sceneIndex = scene) s
      inputs) : Selects render scene s inputs := by
  rintro past u ⟨rest, rfl⟩ hpast hpoint
  cases rest with
  | nil =>
      rw [List.append_nil] at run
      have hsame := run.unique (fun _ _ _ _ left right => Option.some.inj (left.symm.trans right)) hpast
      exact absurd (hsame ▸ hpoint) hend
  | cons a rest => exact h.good_of_run past a rest u rfl hpast hpoint

/-- An iteration at 30 frames a second, with or without a request for the next scene. -/
private def iteration (n : Nat) (signal : Bool) : List LoopInput :=
  [.clock (some (UInt64.ofNat (2000 + 33333333 * n))), .signal signal, .polled none, .go, .go,
    .clock (some (UInt64.ofNat (12000 + 33333333 * n))), .slept true false]

/-- Thirty iterations, the first of them with or without a request. -/
private def thirtyFrames (signal : Bool) : List LoopInput :=
  (List.range 30).flatMap fun n => iteration n (signal && n == 0)

private def paint (scene : Nat) (_ : UInt64) (_ : Image) : Image :=
  if scene = 0 then [0xff000000] else [0xffffffff]

private def thirtyFramesOutcome (signal : Bool) : Option RenderLoop :=
  @outcome armv7 paint 1000 (thirtyFrames signal)

omit [Target] in
private theorem thirtyFramesOutcome_isSome :
    ∀ signal, (thirtyFramesOutcome signal).isSome = true := by decide +kernel

omit [Target] in
theorem selected_scene_arrives_thirtyFrames :
    letI := armv7
    ∃ s v, RenderLoop.start 1000 [] [] [] = some s ∧ Run (Steps paint) s (thirtyFrames true) v ∧
      v.transition.active = false ∧ v.displayedScene = 1 := by
  let _ : Target := armv7
  obtain ⟨s, hstart, run⟩ := run_of_outcome (Option.some_get (thirtyFramesOutcome_isSome true)).symm
  have hfacts : ∀ s ∈ RenderLoop.start 1000 [] [] [],
      Throughout (step paint) (fun s _ => s.point = .change → s.runtime.sceneIndex = 1) s
          (thirtyFrames true) ∧
        framesShown s + 30 ≤
          framesShown ((thirtyFramesOutcome true).get (thirtyFramesOutcome_isSome true)) ∧
        ((thirtyFramesOutcome true).get (thirtyFramesOutcome_isSome true)).point ≠ .change := by
    decide +kernel
  obtain ⟨hgood, hframes, hend⟩ := hfacts s hstart
  obtain ⟨hidle, hdisplayed, _⟩ := selected_scene_arrives hstart (.nil s) run
    (selects_of_throughout run hend hgood) hframes
  exact ⟨s, _, hstart, run, hidle, hdisplayed⟩

/-- A request for the next scene, a frame that takes 600 ms, and a request for the scene before. -/
private def changeAndBack : List LoopInput :=
  [.clock (some 1000002000), .signal true, .polled none, .go, .go, .clock (some 1600002000),
    .slept true false, .clock (some 1600003000), .signal false, .polled (some .previous), .go]

private def ShowsFade (v : RenderLoop) : Prop :=
  v.runtime.sceneIndex = 0 ∧ 30 ≤ framesShown v ∧
    ∃ w ∈ @execute _ _ (@step paint armv7) v changeAndBack, ∃ x ∈ @step paint armv7 w .go,
      w.point = .frame ∧ w.runtime.sceneIndex = 0 ∧
        x.log ≠ w.log ++ [.publish (paint 0 w.runtime.frame w.low)]

omit [Target] in
/-- When the scene arrived goes away and comes back before the fade away from it is complete, the
frames are the fade's although the scene is selected again. -/
theorem fade_frame_after_arrival :
    letI := armv7
    ∃ s v w x, RenderLoop.start 1000 [] [] [] = some s ∧
      Run (Steps paint) s (thirtyFrames false) v ∧
      Throughout (step paint) (fun s _ => s.runtime.sceneIndex = 0) s (thirtyFrames false) ∧
      v.runtime.sceneIndex = 0 ∧ framesShown s + 30 ≤ framesShown v ∧
      Run (Steps paint) v changeAndBack w ∧ w.point = .frame ∧ w.runtime.sceneIndex = 0 ∧
      Steps paint w .go x ∧ x.log ≠ w.log ++ [.publish (paint 0 w.runtime.frame w.low)] := by
  let _ : Target := armv7
  obtain ⟨s, hstart, run⟩ := run_of_outcome (Option.some_get (thirtyFramesOutcome_isSome false)).symm
  have hstay : ∀ s ∈ RenderLoop.start 1000 [] [] [],
      Throughout (step paint) (fun s _ => s.runtime.sceneIndex = 0) s (thirtyFrames false) ∧
        framesShown s = 0 := by
    decide +kernel
  have hfade : ShowsFade
      ((thirtyFramesOutcome false).get (thirtyFramesOutcome_isSome false)) := by
    unfold ShowsFade
    decide +kernel
  obtain ⟨hthroughout, hnone⟩ := hstay s hstart
  obtain ⟨hscene, hframes, w, hw, x, hx, hpoint, hselected, hlog⟩ := hfade
  exact ⟨s, _, w, x, hstart, run, hthroughout, hscene, by omega, Run.of_execute hw, hpoint, hselected,
    hx, hlog⟩

end RenderLoop

end VitaLinuxPort
