import VitaLinuxPort.Proof.RenderLoop.Steps

/-!
# No hard cuts

What the loop sends to the framebuffer is read back as a list of segments: steady frames of the
scene displayed, and complete fades. Each segment begins at the scene the one before it ended at, so
the scene shown changes along fades only. At most one fade is unfinished, the one in flight when the
run ends, and its frames so far are the first `elapsedFrames` of a complete one.
-/

namespace VitaLinuxPort

inductive Segment where
  | steady (scene : Nat) (frame : UInt64) (before : Image)
  | fade (source target : Nat) (frame : UInt64) (beforeFrom beforeTo : Image)

namespace Segment

def first : Segment → Nat
  | steady scene _ _ => scene
  | fade source _ _ _ _ => source

def last : Segment → Nat
  | steady scene _ _ => scene
  | fade _ target _ _ _ => target

/-- A segment shows scenes there are, and a fade leads to another scene. -/
def Proper : Segment → Prop
  | steady scene _ _ => scene < cartSceneCount
  | fade source target _ _ _ =>
      source < cartSceneCount ∧ target < cartSceneCount ∧ source ≠ target

theorem Proper.last_lt {segment : Segment} (h : segment.Proper) : segment.last < cartSceneCount := by
  cases segment with
  | steady => exact h
  | fade => exact h.2.1

def Connects : Nat → List Segment → Nat → Prop
  | source, [], target => source = target
  | source, segment :: segments, target =>
      segment.first = source ∧ Connects segment.last segments target

theorem connects_append {source target : Nat} {left right : List Segment} :
    Connects source (left ++ right) target ↔
      ∃ middle, Connects source left middle ∧ Connects middle right target := by
  induction left generalizing source with
  | nil => simp [Connects]
  | cons segment left ih => simp only [List.cons_append, Connects, ih, and_assoc, exists_and_left]

theorem connects_between {source target a b : Nat} {f g : UInt64} {x y : Image}
    {before between after : List Segment}
    (h : Connects source (before ++ steady a f x :: (between ++ steady b g y :: after)) target) :
    Connects a between b := by
  obtain ⟨_, _, _, hbetween⟩ := connects_append.mp h
  obtain ⟨middle, hconnects, hb, _⟩ := connects_append.mp hbetween
  have hmiddle : b = middle := hb
  exact hmiddle ▸ hconnects

variable (render : Nat → UInt64 → Image → Image)

/-- The first `n` frames of a fade, after the renders of its two endpoints. -/
def fadeEvents (source target : Nat) (frame : UInt64) (beforeFrom beforeTo : Image) (n : Nat) :
    List LoopEvent :=
  [.renderFrom source frame, .renderTo target frame] ++
    (List.range n).map fun step =>
      .publish (cartTransitionBlend (render source frame beforeFrom) (render target frame beforeTo)
        (UInt64.ofNat step))

/-- What a segment leaves in the log. A fade has all its frames. -/
def events : Segment → List LoopEvent
  | steady scene frame before => [.publish (render scene frame before)]
  | fade source target frame beforeFrom beforeTo =>
      fadeEvents render source target frame beforeFrom beforeTo cartTransitionFrames.toNat

theorem fadeEvents_succ (source target : Nat) (frame : UInt64) (beforeFrom beforeTo : Image)
    (n : Nat) :
    fadeEvents render source target frame beforeFrom beforeTo (n + 1) =
      fadeEvents render source target frame beforeFrom beforeTo n ++
        [.publish (cartTransitionBlend (render source frame beforeFrom)
          (render target frame beforeTo) (UInt64.ofNat n))] := by
  simp [fadeEvents, List.range_succ]

end Segment

namespace RenderLoop

open Segment

variable {render : Nat → UInt64 → Image → Image} {s t : RenderLoop}

theorem cartTransitionFrames_pos : 0 < cartTransitionFrames := by decide

/-- The fade in flight: it leads away from the displayed scene, its endpoints are in the two
buffers, and `elapsedFrames` of its frames follow what was shown before it. -/
structure InFlight (render : Nat → UInt64 → Image → Image) (past : List LoopEvent)
    (s : RenderLoop) : Prop where
  from_eq : s.transition.fromScene = s.displayedScene
  to_lt : s.transition.toScene < cartSceneCount
  ne : s.transition.fromScene ≠ s.transition.toScene
  elapsed_lt : s.transition.elapsedFrames < cartTransitionFrames
  frames : ∃ frame beforeFrom beforeTo,
    s.lowFrom = render s.transition.fromScene frame beforeFrom ∧
      s.lowTo = render s.transition.toScene frame beforeTo ∧
      s.log = past ++ fadeEvents render s.transition.fromScene s.transition.toScene frame
        beforeFrom beforeTo s.transition.elapsedFrames.toNat

/-- What has been shown: complete segments from `scene` on, and the fade in flight. -/
structure Shown (render : Nat → UInt64 → Image → Image) (scene : Nat) (segments : List Segment)
    (s : RenderLoop) : Prop where
  connects : Connects scene segments s.displayedScene
  proper : ∀ segment ∈ segments, segment.Proper
  displayed_lt : s.displayedScene < cartSceneCount
  idle : s.transition.active = false → s.log = segments.flatMap (events render)
  inFlight : s.transition.active = true →
    InFlight render (segments.flatMap (events render)) s

theorem Shown.of_drawing_eq {scene : Nat} {segments : List Segment}
    (shown : Shown render scene segments s) (h : t.drawing = s.drawing) :
    Shown render scene segments t := by
  simp only [drawing, Prod.mk.injEq] at h
  obtain ⟨htransition, hdisplayed, hfrom, hto, hlog⟩ := h
  refine ⟨hdisplayed ▸ shown.connects, shown.proper, hdisplayed ▸ shown.displayed_lt, ?_, ?_⟩
  · intro hidle
    rw [hlog]
    exact shown.idle (htransition ▸ hidle)
  · intro hactive
    obtain ⟨hsource, hlt, hne, helapsed, hframes⟩ := shown.inFlight (htransition ▸ hactive)
    rw [← htransition] at hsource hlt hne helapsed hframes
    rw [← hdisplayed] at hsource
    rw [← hfrom, ← hto, ← hlog] at hframes
    exact ⟨hsource, hlt, hne, helapsed, hframes⟩

/-- A segment has been completed, and no fade is in flight. -/
theorem Shown.concat {scene : Nat} {segments : List Segment} {segment : Segment}
    (shown : Shown render scene segments s) (hproper : segment.Proper)
    (hfirst : segment.first = s.displayedScene) (hlast : segment.last = t.displayedScene)
    (hidle : t.transition.active = false)
    (hlog : t.log = segments.flatMap (events render) ++ events render segment) :
    Shown render scene (segments ++ [segment]) t := by
  refine ⟨?_, ?_, hlast ▸ hproper.last_lt, ?_, fun h => absurd h (by simp [hidle])⟩
  · rw [connects_append]
    exact ⟨s.displayedScene, shown.connects, hfirst, hlast⟩
  · intro earlier hmem
    rcases List.mem_append.mp hmem with hold | hnew
    · exact shown.proper earlier hold
    · rw [List.mem_singleton.mp hnew]
      exact hproper
  · intro _
    rw [List.flatMap_append, List.flatMap_singleton, hlog]

theorem beginFade_of_change (render : Nat → UInt64 → Image → Image) {s : RenderLoop}
    (hother : s.runtime.sceneIndex ≠ s.displayedScene) (hidle : s.transition.active = false) :
    s.beginFade render =
      { s with
        point := .frame
        transition := ⟨s.displayedScene, s.runtime.sceneIndex, 0, true, true⟩
        lowFrom := renderFrame render s.displayedScene s.runtime.frame s.lowFrom
        lowTo := renderFrame render s.runtime.sceneIndex s.runtime.frame s.lowTo
        log := s.log ++ [.renderFrom s.displayedScene s.runtime.frame,
          .renderTo s.runtime.sceneIndex s.runtime.frame] } := by
  rw [RenderLoop.beginFade, if_pos ⟨hother, by rw [cartTransitionActive, hidle]; rfl⟩]
  simp [cartTransitionBegin, cartTransitionSourcesNeedRender, cartTransitionMarkSourcesRendered,
    hother.symm]

theorem beginFade_of_idle (render : Nat → UInt64 → Image → Image) {s : RenderLoop}
    (h : s.runtime.sceneIndex = s.displayedScene ∨ s.transition.active = true) :
    s.beginFade render = { s with point := .frame } := by
  rw [RenderLoop.beginFade, if_neg]
  rintro ⟨hother, hidle⟩
  rcases h with hsame | hactive
  · exact hother hsame
  · simp [cartTransitionActive, hactive] at hidle

theorem Shown.beginFade {scene : Nat} {segments : List Segment}
    (shown : Shown render scene segments s) (hindex : s.runtime.sceneIndex < cartSceneCount) :
    Shown render scene segments (s.beginFade render) := by
  by_cases hchange : s.runtime.sceneIndex = s.displayedScene ∨ s.transition.active = true
  · rw [beginFade_of_idle render hchange]
    exact shown.of_drawing_eq rfl
  · obtain ⟨hother, hactive⟩ := not_or.mp hchange
    have hidle : s.transition.active = false := by simpa using hactive
    rw [beginFade_of_change render hother hidle, renderFrame, if_pos shown.displayed_lt, renderFrame,
      if_pos hindex]
    refine ⟨shown.connects, shown.proper, shown.displayed_lt, fun h => by simp at h, fun _ => ?_⟩
    refine ⟨rfl, hindex, Ne.symm hother, cartTransitionFrames_pos, s.runtime.frame, s.lowFrom,
      s.lowTo, rfl, rfl, ?_⟩
    simp [fadeEvents, shown.idle hidle]

theorem advance_active {transition : CartTransition} (hactive : transition.active = true)
    (hlt : transition.elapsedFrames < cartTransitionFrames) :
    (cartTransitionAdvance transition).elapsedFrames.toNat =
        transition.elapsedFrames.toNat + 1 ∧
      ((cartTransitionAdvance transition).active = true ↔
        (cartTransitionAdvance transition).elapsedFrames < cartTransitionFrames) := by
  have hbound : transition.elapsedFrames.toNat < 15 := UInt64.lt_iff_toNat_lt.mp hlt
  have hsucc : (transition.elapsedFrames + 1).toNat = transition.elapsedFrames.toNat + 1 := by
    rw [UInt64.toNat_add, UInt64.toNat_one]
    omega
  rw [cartTransitionAdvance, hactive]
  simp [hsucc]

theorem drawFrame_of_active (render : Nat → UInt64 → Image → Image) {s : RenderLoop}
    (hactive : s.transition.active = true) :
    s.drawFrame render =
      { s with
        point := .shown
        low := cartTransitionBlend s.lowFrom s.lowTo s.transition.elapsedFrames
        transition := cartTransitionAdvance s.transition
        displayedScene :=
          if (cartTransitionAdvance s.transition).active then s.displayedScene
          else s.transition.toScene
        log := s.log ++ [.publish
          (cartTransitionBlend s.lowFrom s.lowTo s.transition.elapsedFrames)] } := by
  rw [RenderLoop.drawFrame, cartTransitionActive, if_pos hactive]
  cases h : (cartTransitionAdvance s.transition).active <;>
    simp [cartTransitionActive, h]

theorem drawFrame_of_idle (hlt : s.displayedScene < cartSceneCount)
    (hidle : s.transition.active = false) :
    s.drawFrame render =
      { s with
        point := .shown
        low := render s.displayedScene s.runtime.frame s.low
        log := s.log ++ [.publish (render s.displayedScene s.runtime.frame s.low)] } := by
  rw [RenderLoop.drawFrame, cartTransitionActive, hidle, if_neg Bool.false_ne_true, renderFrame,
    if_pos hlt]

/-- The frame drawn while a fade is in flight is the fade's next one; after the last one the fade
is a complete segment and its target is displayed. -/
theorem Shown.drawFade {scene : Nat} {segments : List Segment}
    (shown : Shown render scene segments s) (hactive : s.transition.active = true) :
    ∃ segments', Shown render scene segments' (s.drawFrame render) := by
  obtain ⟨hsource, hto, hne, hlt, frame, beforeFrom, beforeTo, hfrom, hlowTo, hlog⟩ :=
    shown.inFlight hactive
  obtain ⟨hsucc, hcontinues⟩ := advance_active hactive hlt
  have hnext : s.log ++ [.publish
        (cartTransitionBlend s.lowFrom s.lowTo s.transition.elapsedFrames)] =
      segments.flatMap (events render) ++
        fadeEvents render s.transition.fromScene s.transition.toScene frame beforeFrom beforeTo
          (cartTransitionAdvance s.transition).elapsedFrames.toNat := by
    rw [hlog, hsucc, fadeEvents_succ, hfrom, hlowTo, UInt64.ofNat_toNat, List.append_assoc]
  rw [drawFrame_of_active render hactive]
  by_cases hmore : (cartTransitionAdvance s.transition).active = true
  · refine ⟨segments, ?_, shown.proper, ?_, ?_, ?_⟩
    · simpa [hmore] using shown.connects
    · simpa [hmore] using shown.displayed_lt
    · intro hidle
      exact absurd hmore (by simpa using hidle)
    · intro _
      refine ⟨?_, ?_, ?_, hcontinues.mp hmore, frame, beforeFrom, beforeTo, ?_, ?_, ?_⟩
      · simpa [hmore] using hsource
      · simpa using hto
      · simpa using hne
      · simpa using hfrom
      · simpa using hlowTo
      · simpa using hnext
  · have hlast : (cartTransitionAdvance s.transition).elapsedFrames.toNat =
        cartTransitionFrames.toNat := by
      have hbound : s.transition.elapsedFrames.toNat < 15 := UInt64.lt_iff_toNat_lt.mp hlt
      have hend := mt hcontinues.mpr hmore
      rw [UInt64.lt_iff_toNat_lt] at hend
      have hframes : cartTransitionFrames.toNat = 15 := rfl
      omega
    rw [hlast] at hnext
    have hproper : (Segment.fade s.transition.fromScene s.transition.toScene frame beforeFrom
        beforeTo).Proper := ⟨hsource ▸ shown.displayed_lt, hto, hne⟩
    refine ⟨_, shown.concat hproper hsource ?_ ?_ hnext⟩
    · simp [Segment.last, hmore]
    · simpa using hmore

theorem Shown.drawSteady {scene : Nat} {segments : List Segment}
    (shown : Shown render scene segments s) (hidle : s.transition.active = false) :
    Shown render scene (segments ++ [.steady s.displayedScene s.runtime.frame s.low])
      (s.drawFrame render) := by
  rw [drawFrame_of_idle shown.displayed_lt hidle]
  refine shown.concat shown.displayed_lt rfl rfl hidle ?_
  rw [events, shown.idle hidle]

variable [Target] {input : LoopInput}

theorem Shown.step {scene : Nat} (shown : ∃ segments, Shown render scene segments s)
    (ok : RuntimeOk s.runtime) (h : s.step render input = some t) :
    ∃ segments, Shown render scene segments t := by
  obtain ⟨segments, shown⟩ := shown
  rcases step_cases h with ⟨hdrawing, _⟩ | ⟨_, _, ⟨_, rfl⟩ | ⟨_, rfl⟩⟩
  · exact ⟨segments, shown.of_drawing_eq hdrawing⟩
  · exact ⟨segments, shown.beginFade ok.index_lt⟩
  · cases hactive : s.transition.active with
    | true => exact shown.drawFade hactive
    | false => exact ⟨_, shown.drawSteady hactive⟩

theorem shown_of_run {nowNs : UInt64} {low lowFrom lowTo : Image} {inputs : List LoopInput}
    (hstart : RenderLoop.start nowNs low lowFrom lowTo = some s)
    (run : Run (Steps render) s inputs t) :
    RuntimeOk t.runtime ∧ ∃ segments, Shown render 0 segments t := by
  obtain ⟨hok, hdrawing, _⟩ := start_spec hstart
  simp only [drawing, Prod.mk.injEq] at hdrawing
  obtain ⟨htransition, hdisplayed, _, _, hlog⟩ := hdrawing
  have hinitial : Shown render 0 [] s := by
    refine ⟨hdisplayed.symm, by simp, hdisplayed ▸ by decide, fun _ => hlog, fun hactive => ?_⟩
    rw [htransition] at hactive
    cases hactive
  exact run.invariant (P := fun s => RuntimeOk s.runtime ∧ ∃ segments, Shown render 0 segments s)
    ⟨hok, [], hinitial⟩ fun _ _ _ hs h => ⟨hs.1.step h, Shown.step hs.2 hs.1 h⟩

/-- The frames shown so far are steady frames and complete fades, each beginning at the scene the
one before it ended at; only the fade in flight is still incomplete. -/
def NoHardCuts (render : Nat → UInt64 → Image → Image) (scene : Nat) (s : RenderLoop) : Prop :=
  ∃ segments : List Segment,
    Connects scene segments s.displayedScene ∧ (∀ segment ∈ segments, segment.Proper) ∧
    (s.transition.active = false → s.log = segments.flatMap (events render)) ∧
    (s.transition.active = true → InFlight render (segments.flatMap (events render)) s) ∧
    ∀ before between after a f x b g y,
      segments = before ++ .steady a f x :: (between ++ .steady b g y :: after) →
      Connects a between b

/-- The scene changes along complete fades only, in every run of the loop, whatever the clock reads
and whatever is asked for. -/
theorem no_hard_cuts {nowNs : UInt64} {low lowFrom lowTo : Image} {inputs : List LoopInput}
    (hstart : RenderLoop.start nowNs low lowFrom lowTo = some s)
    (run : Run (Steps render) s inputs t) : NoHardCuts render 0 t := by
  obtain ⟨_, segments, shown⟩ := shown_of_run hstart run
  refine ⟨segments, shown.connects, shown.proper, shown.idle, shown.inFlight, ?_⟩
  intro before between after a f x b g y heq
  exact connects_between (heq ▸ shown.connects)

private def firstFadeFrame : List LoopInput :=
  [.clock (some 2000), .signal true, .polled none, .go, .go]

omit [Target] in
theorem no_hard_cuts_firstFadeFrame :
    letI := armv7
    ∃ s t, RenderLoop.start 1000 [] [] [] = some s ∧
      Run (Steps fun _ _ image => image) s firstFadeFrame t ∧
      t.log = [.renderFrom 0 0, .renderTo 1 0, .publish []] ∧
      NoHardCuts (fun _ _ image => image) 0 t := by
  let _ : Target := armv7
  refine ⟨_, _, rfl, Run.of_execute (f := RenderLoop.step fun _ _ image => image) rfl, rfl, ?_⟩
  exact no_hard_cuts (rfl : RenderLoop.start 1000 [] [] [] = some _)
    (Run.of_execute (rfl : execute _ _ firstFadeFrame = some _))

end RenderLoop

end VitaLinuxPort
