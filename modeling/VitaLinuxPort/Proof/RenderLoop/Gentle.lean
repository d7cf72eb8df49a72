import VitaLinuxPort.Proof.RenderLoop.Steps
import VitaLinuxPort.Proof.RenderLoop.Fades
import VitaLinuxPort.Proof.Scenes.Bands
import VitaLinuxPort.Proof.Transition.Blend
import Mathlib.Data.List.Chain

/-!
# What changes from one frame to the next

With the built-in scenes every buffer the loop shows holds a solid picture of the full size. From one
frame to the next a channel of a pixel moves by at most 26 levels, except where a scene itself moves:
where a scene that stands, or into which a fade has just led, is drawn again for a later frame.
-/

namespace VitaLinuxPort

/-- Equally large pictures in which no channel of a pixel is more than 26 levels apart. -/
def NearImage (before after : Image) : Prop :=
  before.length = after.length ∧ ∀ i, ∀ channel ∈ [red, green, blue],
    |channel (after.getD i 0) - channel (before.getD i 0)| ≤ 26

theorem nearImage_refl (image : Image) : NearImage image image := by
  refine ⟨rfl, fun i channel _ => ?_⟩
  rw [sub_self, abs_zero]
  decide

section Blending

variable {source target : Image}

/-- A picture of the full size without transparency. -/
structure Whole (image : Image) : Prop where
  length : image.length = logicalWidth * logicalHeight
  solid : ∀ pixel ∈ image, Solid pixel

theorem whole_blend (hsource : Whole source) (htarget : Whole target) (step : UInt64) :
    Whole (cartTransitionBlend source target step) := by
  rw [cartTransitionBlend_eq (hsource.length.trans htarget.length.symm) hsource.solid htarget.solid]
  refine ⟨by simp [hsource.length, htarget.length], fun pixel hpixel => ?_⟩
  obtain ⟨j, hj, rfl⟩ := List.mem_iff_getElem.mp hpixel
  rw [List.getElem_zipWith]
  exact cartMix_solid _ _ _

theorem blend_first (source target : Image) :
    cartTransitionBlend source target 0 = source := rfl

theorem blend_last (source target : Image) :
    cartTransitionBlend source target cartTransitionFrames = target := rfl

/-- A step of a fade. -/
theorem nearImage_blend (hsource : Whole source) (htarget : Whole target) {step next : UInt64}
    (hnext : next.toNat = step.toNat + 1) :
    NearImage (cartTransitionBlend source target step) (cartTransitionBlend source target next) := by
  have hlength := hsource.length.trans htarget.length.symm
  have hblend := cartTransitionBlend_eq hlength hsource.solid htarget.solid
  refine ⟨by rw [hblend, hblend, List.length_zipWith, List.length_zipWith], ?_⟩
  intro i channel hchannel
  by_cases hi : i < source.length
  · have hi' : i < target.length := hlength ▸ hi
    have hpixel : ∀ step, channels ((cartTransitionBlend source target step).getD i 0) =
        (interpolate 256 (red source[i]) (red target[i]) (cartTransitionWeight step),
          interpolate 256 (green source[i]) (green target[i]) (cartTransitionWeight step),
          interpolate 256 (blue source[i]) (blue target[i]) (cartTransitionWeight step)) := by
      intro step
      rw [hblend, List.getD_eq_getElem _ _ (by simp [hi, hi']), List.getElem_zipWith,
        channels_cartMix _ _ (cartTransitionWeight_le step)]
    obtain ⟨hr, hg, hb⟩ := channels_mem source[i]
    obtain ⟨hr', hg', hb'⟩ := channels_mem target[i]
    simp only [List.mem_cons, List.not_mem_nil, or_false] at hchannel
    rcases hchannel with rfl | rfl | rfl
    · simp only [red, hpixel]
      exact (fades_interpolate hr hr').gentle step next hnext
    · simp only [green, hpixel]
      exact (fades_interpolate hg hg').gentle step next hnext
    · simp only [blue, hpixel]
      exact (fades_interpolate hb hb').gentle step next hnext
  · have hout : ∀ step, (cartTransitionBlend source target step).getD i 0 = 0 := by
      intro step
      rw [hblend, List.getD_eq_default]
      simp [List.length_zipWith]
      omega
    rw [hout, hout, sub_self, abs_zero]
    decide

end Blending

section Builtin

variable [Target] (sine : Nat → Int)

/-- `render_frame` with the built-in scenes, the workers doing their bands in the given order. -/
def renderBuiltin (order : Nat → UInt64 → List (Int × Int)) (scene : Nat) (frame : UInt64)
    (low : Image) : Image :=
  if h : scene < cartSceneCount then renderSelected sine ⟨scene, h⟩ frame (order scene frame) low
  else low

/-- The picture of a scene at a frame. -/
def picture (which : SceneIndex) (frame : UInt64) : Image :=
  renderSelected sine which frame [(0, logicalHeight)] (.replicate (logicalWidth * logicalHeight) 0)

def Draws (scene : Nat) (image : Image) : Prop :=
  ∃ h : scene < cartSceneCount, ∃ frame, image = picture sine ⟨scene, h⟩ frame

/-- A channel moves by at most 26 levels, or a scene moves. -/
def Gentle (before after : Image) : Prop :=
  NearImage before after ∨
    ∃ scene image, Draws sine scene image ∧ NearImage before image ∧ Draws sine scene after

/-- The bands are those of the rows, in some order. -/
def Orders (order : Nat → UInt64 → List (Int × Int)) : Prop :=
  ∀ scene frame, ∃ bands, Split 0 logicalHeight bands ∧ (order scene frame).Perm bands

variable {sine}

theorem whole_picture (which : SceneIndex) (frame : UInt64) : Whole (picture sine which frame) := by
  have hpainted := painted_overlay sine (legacyFramePhase frame)
    (painted_lowCanvas (length_rowsPixels sine which frame) (solid_rowsPixels sine which frame)) which
  rw [picture, renderSelected_eq_overlay sine which frame split_inline (.refl _) List.length_replicate]
  exact ⟨hpainted.length, hpainted.solid⟩

theorem Draws.whole {scene : Nat} {image : Image} (h : Draws sine scene image) : Whole image := by
  obtain ⟨_, frame, rfl⟩ := h
  exact whole_picture _ frame

theorem draws_renderBuiltin {order : Nat → UInt64 → List (Int × Int)} (horder : Orders order)
    {scene : Nat} (hscene : scene < cartSceneCount) (frame : UInt64) {low : Image}
    (hlow : low.length = logicalWidth * logicalHeight) :
    Draws sine scene (renderBuiltin sine order scene frame low) := by
  obtain ⟨bands, hsplit, hperm⟩ := horder scene frame
  refine ⟨hscene, frame, ?_⟩
  rw [renderBuiltin, dif_pos hscene, picture, renderSelected_eq_overlay sine _ frame hsplit hperm hlow,
    renderSelected_eq_overlay sine _ frame split_inline (.refl _) List.length_replicate]

end Builtin

namespace RenderLoop

/-- The frames that were sent to the framebuffer. -/
def frames (log : List LoopEvent) : List Image :=
  log.filterMap fun event =>
    match event with
    | .publish image => some image
    | _ => none

theorem frames_publish (log : List LoopEvent) (image : Image) :
    frames (log ++ [.publish image]) = frames log ++ [image] := by
  simp [frames]

theorem frames_renders (log : List LoopEvent) (source target : Nat) (frame : UInt64) :
    frames (log ++ [.renderFrom source frame, .renderTo target frame]) = frames log := by
  simp [frames]

variable [Target] {sine : Nat → Int} {s t : RenderLoop}

/-- What the loop keeps: the frames so far are gentle, and so will the next one be. -/
structure Calm (sine : Nat → Int) (s : RenderLoop) : Prop where
  low_length : s.low.length = logicalWidth * logicalHeight
  from_length : s.lowFrom.length = logicalWidth * logicalHeight
  to_length : s.lowTo.length = logicalWidth * logicalHeight
  displayed_lt : s.displayedScene < cartSceneCount
  chain : (frames s.log).IsChain (Gentle sine)
  idle : s.transition.active = false → ∀ last ∈ (frames s.log).getLast?,
    ∃ image, Draws sine s.displayedScene image ∧ NearImage last image
  fading : s.transition.active = true → s.transition.elapsedFrames < cartTransitionFrames ∧
    Draws sine s.displayedScene s.lowFrom ∧ Draws sine s.transition.toScene s.lowTo ∧
      ∀ last ∈ (frames s.log).getLast?,
        Gentle sine last (cartTransitionBlend s.lowFrom s.lowTo s.transition.elapsedFrames)

theorem Calm.of_drawing_eq (calm : Calm sine s) (hlow : t.low = s.low) (h : t.drawing = s.drawing) :
    Calm sine t := by
  simp only [drawing, Prod.mk.injEq] at h
  obtain ⟨htransition, hdisplayed, hfrom, hto, hlog⟩ := h
  obtain ⟨hlength, hfromLength, htoLength, hlt, hchain, hidle, hfading⟩ := calm
  rw [← hlow] at hlength
  rw [← hfrom] at hfromLength
  rw [← hto] at htoLength
  rw [← hdisplayed] at hlt
  rw [← hlog] at hchain
  rw [← htransition, ← hlog, ← hdisplayed] at hidle
  rw [← htransition, ← hlog, ← hdisplayed, ← hfrom, ← hto] at hfading
  exact ⟨hlength, hfromLength, htoLength, hlt, hchain, hidle, hfading⟩

variable {order : Nat → UInt64 → List (Int × Int)} {input : LoopInput}

theorem gentle_of_draws {scene : Nat} {before after : Image}
    (hbefore : ∃ image, Draws sine scene image ∧ NearImage before image)
    (hafter : Draws sine scene after) :
    Gentle sine before after := by
  obtain ⟨image, hdraws, hnear⟩ := hbefore
  exact .inr ⟨scene, image, hdraws, hnear, hafter⟩

/-- One more frame. -/
theorem chain_publish {log : List LoopEvent} {image : Image}
    (hchain : (frames log).IsChain (Gentle sine))
    (hlast : ∀ last ∈ (frames log).getLast?, Gentle sine last image) :
    (frames (log ++ [.publish image])).IsChain (Gentle sine) := by
  rw [frames_publish, List.isChain_append]
  refine ⟨hchain, .singleton image, ?_⟩
  simpa using hlast

theorem Calm.beginFade (calm : Calm sine s) (horder : Orders order)
    (hindex : s.runtime.sceneIndex < cartSceneCount) :
    Calm sine (s.beginFade (renderBuiltin sine order)) := by
  by_cases hchange : s.runtime.sceneIndex = s.displayedScene ∨ s.transition.active = true
  · rw [beginFade_of_idle _ hchange]
    exact calm.of_drawing_eq rfl rfl
  · obtain ⟨hother, hactive⟩ := not_or.mp hchange
    have hidle : s.transition.active = false := by simpa using hactive
    have hsource : Draws sine s.displayedScene _ :=
      draws_renderBuiltin horder calm.displayed_lt s.runtime.frame calm.from_length
    have htarget : Draws sine s.runtime.sceneIndex _ :=
      draws_renderBuiltin horder hindex s.runtime.frame calm.to_length
    rw [beginFade_of_change _ hother hidle, renderFrame, if_pos calm.displayed_lt, renderFrame,
      if_pos hindex]
    refine ⟨calm.low_length, hsource.whole.length, htarget.whole.length, calm.displayed_lt, ?_, ?_,
      fun _ => ?_⟩
    · rw [frames_renders]
      exact calm.chain
    · intro hfalse
      cases hfalse
    · refine ⟨cartTransitionFrames_pos, hsource, htarget, ?_⟩
      intro last hlast
      rw [frames_renders] at hlast
      rw [blend_first]
      exact gentle_of_draws (calm.idle hidle last hlast) hsource

theorem Calm.drawFade (calm : Calm sine s) (hactive : s.transition.active = true) :
    Calm sine (s.drawFrame (renderBuiltin sine order)) := by
  obtain ⟨hlt, hsource, htarget, hnext⟩ := calm.fading hactive
  obtain ⟨hsucc, hcontinues⟩ := advance_active hactive hlt
  have hnear := nearImage_blend hsource.whole htarget.whole hsucc
  have hframe := whole_blend hsource.whole htarget.whole s.transition.elapsedFrames
  have hchain := chain_publish calm.chain hnext
  rw [drawFrame_of_active _ hactive]
  by_cases hmore : (cartTransitionAdvance s.transition).active = true
  · refine ⟨hframe.length, calm.from_length, calm.to_length, ?_, hchain, ?_, fun _ => ?_⟩
    · simpa [hmore] using calm.displayed_lt
    · intro hidle
      exact absurd hmore (by simpa using hidle)
    · refine ⟨hcontinues.mp hmore, by simpa [hmore] using hsource, by simpa using htarget, ?_⟩
      intro last hlast
      rw [frames_publish, List.getLast?_concat, Option.mem_some_iff] at hlast
      rw [← hlast]
      exact .inl hnear
  · have hend : (cartTransitionAdvance s.transition).elapsedFrames = cartTransitionFrames := by
      have hbound : s.transition.elapsedFrames.toNat < 15 := UInt64.lt_iff_toNat_lt.mp hlt
      have hdone := mt hcontinues.mpr hmore
      rw [UInt64.lt_iff_toNat_lt] at hdone
      have hframes : cartTransitionFrames.toNat = 15 := rfl
      apply UInt64.toNat_inj.mp
      omega
    rw [hend, blend_last] at hnear
    refine ⟨hframe.length, calm.from_length, calm.to_length, ?_, hchain, fun _ => ?_, ?_⟩
    · simpa [hmore] using htarget.choose
    · intro last hlast
      rw [frames_publish, List.getLast?_concat, Option.mem_some_iff] at hlast
      rw [← hlast]
      exact ⟨s.lowTo, by simpa [hmore] using htarget, hnear⟩
    · exact fun hfading => absurd hfading hmore

theorem Calm.drawSteady (calm : Calm sine s) (horder : Orders order)
    (hidle : s.transition.active = false) : Calm sine (s.drawFrame (renderBuiltin sine order)) := by
  have hdraws : Draws sine s.displayedScene _ :=
    draws_renderBuiltin horder calm.displayed_lt s.runtime.frame calm.low_length
  rw [drawFrame_of_idle calm.displayed_lt hidle]
  refine ⟨hdraws.whole.length, calm.from_length, calm.to_length, calm.displayed_lt, ?_,
    fun _ => ?_, ?_⟩
  · exact chain_publish calm.chain fun last hlast => gentle_of_draws (calm.idle hidle last hlast) hdraws
  · intro last hlast
    rw [frames_publish, List.getLast?_concat, Option.mem_some_iff] at hlast
    rw [← hlast]
    exact ⟨_, hdraws, nearImage_refl _⟩
  · intro hactive
    rw [hidle] at hactive
    cases hactive

theorem Calm.drawFrame (calm : Calm sine s) (horder : Orders order) :
    Calm sine (s.drawFrame (renderBuiltin sine order)) := by
  cases hactive : s.transition.active with
  | true => exact calm.drawFade hactive
  | false => exact calm.drawSteady horder hactive

omit [Target] in
theorem clockAndTick_low (next : LoopPoint) (reading : Option UInt64) (s : RenderLoop) :
    (s.clockAndTick next reading).low = s.low := by
  cases reading <;> rfl

theorem takeInput_low (action : Option CartInputAction) (s : RenderLoop) :
    (s.takeInput action).low = s.low := by
  cases action with
  | none => rfl
  | some action => cases action <;> rfl

omit [Target] in
theorem beginFade_low (render : Nat → UInt64 → Image → Image) (s : RenderLoop) :
    (s.beginFade render).low = s.low := by
  unfold RenderLoop.beginFade
  split
  · dsimp only
    split <;> rfl
  · rfl

/-- Only drawing a frame writes `low`. -/
theorem step_low {render : Nat → UInt64 → Image → Image} (h : s.step render input = some t) :
    t.low = s.low ∨ t = s.drawFrame render := by
  unfold RenderLoop.step at h
  split at h
  · exact .inl (Option.some.inj h ▸ clockAndTick_low _ _ s)
  · exact .inl (Option.some.inj h ▸ rfl)
  · exact .inl (Option.some.inj h ▸ takeInput_low _ s)
  · exact .inl (Option.some.inj h ▸ beginFade_low render s)
  · exact .inr (Option.some.inj h).symm
  · exact .inl (Option.some.inj h ▸ clockAndTick_low _ _ s)
  · exact .inl (Option.some.inj h ▸ rfl)
  · cases h

theorem Calm.step (calm : Calm sine s) (horder : Orders order) (ok : RuntimeOk s.runtime)
    (h : s.step (renderBuiltin sine order) input = some t) : Calm sine t := by
  rcases step_low h with hlow | rfl
  · rcases step_cases h with ⟨hdrawing, _⟩ | ⟨_, _, ⟨_, rfl⟩ | ⟨_, rfl⟩⟩
    · exact calm.of_drawing_eq hlow hdrawing
    · exact calm.beginFade horder ok.index_lt
    · exact calm.drawFrame horder
  · exact calm.drawFrame horder

theorem Calm.start {nowNs : UInt64} {low lowFrom lowTo : Image}
    (hlow : low.length = logicalWidth * logicalHeight)
    (hfrom : lowFrom.length = logicalWidth * logicalHeight)
    (hto : lowTo.length = logicalWidth * logicalHeight)
    (hstart : RenderLoop.start nowNs low lowFrom lowTo = some s) : Calm sine s := by
  obtain ⟨_, hdrawing, _⟩ := start_spec hstart
  have hsame : s.low = low := by
    obtain ⟨runtime, _, rfl⟩ := Option.map_eq_some_iff.mp hstart
    rfl
  simp only [drawing, Prod.mk.injEq] at hdrawing
  obtain ⟨htransition, hdisplayed, hlowFrom, hlowTo, hlog⟩ := hdrawing
  refine ⟨hsame ▸ hlow, hlowFrom ▸ hfrom, hlowTo ▸ hto, by rw [hdisplayed]; decide, ?_, ?_, ?_⟩
  · rw [hlog]
    exact .nil
  · intro _ last hlast
    rw [hlog] at hlast
    cases hlast
  · intro hactive
    rw [htransition] at hactive
    cases hactive

/-- In every run of the loop with the built-in scenes, whatever the clock reads and whatever is asked
for, a channel of a pixel moves by at most 26 levels from one frame to the next, except where a scene
itself moves. -/
theorem frames_gentle (horder : Orders order) {nowNs : UInt64} {low lowFrom lowTo : Image}
    (hlow : low.length = logicalWidth * logicalHeight)
    (hfrom : lowFrom.length = logicalWidth * logicalHeight)
    (hto : lowTo.length = logicalWidth * logicalHeight) {inputs : List LoopInput}
    (hstart : RenderLoop.start nowNs low lowFrom lowTo = some s)
    (run : Run (Steps (renderBuiltin sine order)) s inputs t) :
    (frames t.log).IsChain (Gentle sine) := by
  obtain ⟨hok, _⟩ := start_spec hstart
  have hinv := run.invariant (P := fun s => RuntimeOk s.runtime ∧ Calm sine s)
    ⟨hok, Calm.start hlow hfrom hto hstart⟩
    fun _ _ _ hs h => ⟨hs.1.step h, hs.2.step horder hs.1 h⟩
  exact hinv.2.chain

private def twoFadeFrames : List LoopInput :=
  [.clock (some 2000), .signal true, .polled none, .go, .go, .clock (some 3000), .slept true false,
    .clock (some 40000000), .signal false, .polled none, .go, .go]

private def blank : Image := .replicate (logicalWidth * logicalHeight) 0

private def inline : Nat → UInt64 → List (Int × Int) := fun _ _ => [(0, logicalHeight)]

omit [Target] in
theorem frames_gentle_twoFadeFrames :
    letI := armv7
    ∃ t : RenderLoop, (frames t.log).length = 2 ∧ (frames t.log).IsChain (Gentle fun _ => 0) := by
  have hframes : letI := armv7; ((RenderLoop.start 1000 blank blank blank).bind
      (execute (RenderLoop.step (renderBuiltin (fun _ => 0) inline)) · twoFadeFrames)).map
        (fun t => (frames t.log).length) = some 2 := rfl
  let _ : Target := armv7
  have horder : Orders inline := fun _ _ => ⟨_, split_inline, .refl _⟩
  have hblank : blank.length = logicalWidth * logicalHeight := List.length_replicate
  obtain ⟨t, hrun, htwo⟩ := Option.map_eq_some_iff.mp hframes
  obtain ⟨s, hstart, hexecute⟩ := Option.bind_eq_some_iff.mp hrun
  exact ⟨t, htwo, frames_gentle horder hblank hblank hblank hstart (Run.of_execute hexecute)⟩

end RenderLoop

end VitaLinuxPort
