import Mathlib.Data.List.Induction
import VitaLinuxPort.Proof.Runtime.Pacing
import VitaLinuxPort.Proof.Runtime.RateLimit

/-!
# Which scene is on

After a tick the scene is the one a request holds, or the attract loop's, or the one the guard did
not allow to be left yet. The hold fields say nothing of the request that set them, so the scene a
hold shows is traced through the history of calls: a hold that is active was set by an accepted
request since which no other was accepted.
-/

namespace VitaLinuxPort

namespace CartRuntime

/-- What the scene part of a tick can do. -/
theorem selectScene_cases (runtime : CartRuntime) (nowNs : UInt64) :
    (runtime.manualHoldActive = true ∧
      runtime.selectScene nowNs = { runtime with sceneIndex := runtime.manualSceneIndex }) ∨
    (runtime.manualHoldActive = false ∧ (runtime.selectScene nowNs).manualHoldActive = false ∧
      (runtime.selectScene nowNs).sceneIndex = runtime.automatic nowNs) ∨
    (runtime.manualHoldActive = false ∧ runtime.changeAllowed nowNs = false ∧
      runtime.selectScene nowNs = runtime) := by
  unfold selectScene
  by_cases hactive : runtime.manualHoldActive = true
  · rw [if_pos hactive]
    exact .inl ⟨hactive, rfl⟩
  rw [if_neg hactive]
  rw [Bool.not_eq_true] at hactive
  by_cases hother : runtime.automatic nowNs ≠ runtime.sceneIndex
  · rw [if_pos hother]
    by_cases hallowed : runtime.changeAllowed nowNs = true
    · rw [if_pos hallowed]
      exact .inr (.inl ⟨hactive, hactive, rfl⟩)
    · rw [if_neg hallowed]
      exact .inr (.inr ⟨hactive, Bool.eq_false_iff.mpr hallowed, rfl⟩)
  · rw [if_neg hother]
    exact .inr (.inl ⟨hactive, hactive, (not_not.mp hother).symm⟩)

/-- The guard denies a change at less than `minChangeNs` after the last. -/
theorem changeAllowed_eq_false_iff {runtime : CartRuntime} {nowNs : UInt64} :
    runtime.changeAllowed nowNs = false ↔
      0 < runtime.minChangeNs ∧ runtime.hadChange = true ∧
        nowNs.toNat < runtime.lastChangeNs.toNat + runtime.minChangeNs.toNat := by
  by_cases hmin : runtime.minChangeNs = 0
  · simp [changeAllowed, hmin]
  · rw [← Bool.not_eq_true, changeAllowed_iff hmin, UInt64.pos_iff_ne_zero]
    unfold lastChange
    cases runtime.hadChange with
    | false => simp
    | true => simp [hmin]

theorem automatic_eq {runtime : CartRuntime} {nowNs : UInt64} (h : runtime.originNs ≤ nowNs) :
    runtime.automatic nowNs =
      (nowNs.toNat - runtime.originNs.toNat) / runtime.scenePeriodNs.toNat % runtime.sceneCount := by
  rw [automatic, UInt64.toNat_div, UInt64.toNat_sub_of_le _ _ h]

/-- A request is refused by the guard, or it is accepted, shows its scene and holds it. -/
theorem requestScene_cases {runtime : CartRuntime} (hcount : runtime.sceneCount ≠ 0)
    (manualSceneIndex : Nat) (nowNs holdNs : UInt64) :
    (runtime.changeAllowed nowNs = false ∧
      runtime.requestScene manualSceneIndex nowNs holdNs = runtime) ∨
    (runtime.changeAllowed nowNs = true ∧
      (runtime.requestScene manualSceneIndex nowNs holdNs).manualSceneIndex = manualSceneIndex ∧
      ((runtime.requestScene manualSceneIndex nowNs holdNs).manualHoldActive = true →
        holdNs ≠ 0 ∧ (runtime.requestScene manualSceneIndex nowNs holdNs).manualHoldUntilNs =
          addSaturating nowNs holdNs)) := by
  unfold requestScene
  rw [if_neg hcount]
  cases hallowed : runtime.changeAllowed nowNs with
  | false => exact .inl ⟨rfl, by simp⟩
  | true =>
      refine .inr ⟨rfl, ?_⟩
      simp only [Bool.not_true, Bool.false_eq_true, if_false]
      split
      · exact ⟨rfl, fun h => absurd h Bool.false_ne_true⟩
      · next hhold => exact ⟨rfl, fun _ => ⟨hhold, rfl⟩⟩

theorem tick_hold {runtime : CartRuntime} (ok : runtime.Configured) (nowNs : UInt64) :
    (cartRuntimeTick runtime nowNs).2.manualHoldActive =
        (runtime.expireHold (runtime.clampNow nowNs)).manualHoldActive ∧
      (cartRuntimeTick runtime nowNs).2.manualSceneIndex = runtime.manualSceneIndex ∧
      (cartRuntimeTick runtime nowNs).2.manualHoldUntilNs = runtime.manualHoldUntilNs := by
  rw [ok.tick_eq]
  generalize runtime.clampNow nowNs = nowNs
  obtain ⟨_, _, _, hscene⟩ := (runtime.expireHold nowNs).selectScene_frame nowNs
  obtain ⟨_, _, _, hdeadline⟩ :=
    ((runtime.expireHold nowNs).selectScene nowNs).advanceDeadline_frame nowNs
  rw [hdeadline, hscene]
  exact ⟨rfl, rfl, rfl⟩

theorem expireHold_active_iff {runtime : CartRuntime} {nowNs : UInt64} :
    (runtime.expireHold nowNs).manualHoldActive = true ↔
      runtime.manualHoldActive = true ∧ nowNs < runtime.manualHoldUntilNs := by
  simp [expireHold]

/-- Which scene a tick leaves on: the held one, the attract loop's, or, where the guard denies the
change, the one before. -/
theorem tick_scene {runtime : CartRuntime} (ok : runtime.Configured) (nowNs : UInt64) :
    ((cartRuntimeTick runtime nowNs).2.manualHoldActive = true ∧
      runtime.manualHoldActive = true ∧
      runtime.clampNow nowNs < runtime.manualHoldUntilNs ∧
      (cartRuntimeTick runtime nowNs).2.sceneIndex = runtime.manualSceneIndex) ∨
    ((cartRuntimeTick runtime nowNs).2.manualHoldActive = false ∧
      (cartRuntimeTick runtime nowNs).2.sceneIndex =
        runtime.automatic (runtime.clampNow nowNs)) ∨
    ((cartRuntimeTick runtime nowNs).2.manualHoldActive = false ∧
      runtime.changeAllowed (runtime.clampNow nowNs) = false ∧
      (cartRuntimeTick runtime nowNs).2.sceneIndex = runtime.sceneIndex ∧
      (cartRuntimeTick runtime nowNs).2.lastChangeNs = runtime.lastChangeNs ∧
      (cartRuntimeTick runtime nowNs).2.hadChange = runtime.hadChange) := by
  rw [ok.tick_eq]
  generalize runtime.clampNow nowNs = nowNs
  obtain ⟨_, _, _, hdeadline⟩ :=
    ((runtime.expireHold nowNs).selectScene nowNs).advanceDeadline_frame nowNs
  rw [hdeadline]
  rcases (runtime.expireHold nowNs).selectScene_cases nowNs with ⟨hactive, heq⟩ |
    ⟨_, hfree, hauto⟩ | ⟨hfree, hdenied, heq⟩
  · rw [heq]
    obtain ⟨hheld, hbefore⟩ := expireHold_active_iff.mp hactive
    exact .inl ⟨hactive, hheld, hbefore, rfl⟩
  · exact .inr (.inl ⟨hfree, hauto⟩)
  · rw [heq]
    exact .inr (.inr ⟨hfree, hdenied, rfl, rfl, rfl⟩)

end CartRuntime

namespace RuntimeCall

def holdNs : RuntimeCall → UInt64
  | tick _ => 0
  | requestNext _ holdNs => holdNs
  | requestPrevious _ holdNs => holdNs

variable [Target]

/-- The scene a request picks. -/
def picks (runtime : CartRuntime) : RuntimeCall → Option Nat
  | tick _ => none
  | requestNext _ _ => some (sizeAdd runtime.sceneIndex 1 % runtime.sceneCount)
  | requestPrevious _ _ =>
      some (sizeSub (sizeAdd runtime.sceneIndex runtime.sceneCount) 1 % runtime.sceneCount)

theorem apply_request {runtime : CartRuntime} {call : RuntimeCall} {scene : Nat}
    (h : call.picks runtime = some scene) :
    call.apply runtime = runtime.requestScene scene call.nowNs call.holdNs := by
  cases call with
  | tick nowNs => simp [picks] at h
  | requestNext nowNs holdNs =>
      cases Option.some.inj h
      rfl
  | requestPrevious nowNs holdNs =>
      cases Option.some.inj h
      rfl

/-- The call is a request and the guard lets it through. -/
def Accepted (runtime : CartRuntime) (call : RuntimeCall) : Prop :=
  (call.picks runtime).isSome ∧ runtime.changeAllowed call.nowNs = true

/-- No request among the calls is accepted when it is made. -/
def Quiet : CartRuntime → List RuntimeCall → Prop
  | _, [] => True
  | runtime, call :: calls => ¬ call.Accepted runtime ∧ Quiet (call.apply runtime) calls

theorem quiet_concat {runtime : CartRuntime} {calls : List RuntimeCall} {call : RuntimeCall} :
    Quiet runtime (calls ++ [call]) ↔
      Quiet runtime calls ∧ ¬ call.Accepted (runCalls runtime calls) := by
  induction calls generalizing runtime with
  | nil => simp [Quiet, runCalls]
  | cons first calls ih =>
      rw [List.cons_append, Quiet, Quiet, ih, and_assoc]
      rfl

/-- A hold of `scene` until `untilNs` was set in the history `calls`: by an accepted request that
picked the scene, since which no other was accepted. -/
def HeldBy (runtime : CartRuntime) (calls : List RuntimeCall) (scene : Nat) (untilNs : UInt64) :
    Prop :=
  ∃ before request after, calls = before ++ request :: after ∧
    request.picks (runCalls runtime before) = some scene ∧
    request.Accepted (runCalls runtime before) ∧
    request.holdNs ≠ 0 ∧ untilNs = addSaturating request.nowNs request.holdNs ∧
    Quiet (runCalls runtime (before ++ [request])) after

theorem HeldBy.concat {runtime : CartRuntime} {calls : List RuntimeCall} {scene : Nat}
    {untilNs : UInt64} (h : HeldBy runtime calls scene untilNs) {call : RuntimeCall}
    (hcall : ¬ call.Accepted (runCalls runtime calls)) :
    HeldBy runtime (calls ++ [call]) scene untilNs := by
  obtain ⟨before, request, after, rfl, hpicks, haccepted, hhold, huntil, hquiet⟩ := h
  refine ⟨before, request, after ++ [call], by simp, hpicks, haccepted, hhold, huntil, ?_⟩
  refine quiet_concat.mpr ⟨hquiet, ?_⟩
  rw [runCalls, runCalls, ← List.foldl_append, List.append_assoc]
  exact hcall

theorem not_accepted_tick (runtime : CartRuntime) (nowNs : UInt64) :
    ¬ (tick nowNs).Accepted runtime := by
  simp [Accepted, picks]

theorem picks_of_not_tick (runtime : CartRuntime) {call : RuntimeCall}
    (h : ∀ nowNs, call ≠ tick nowNs) : ∃ scene, call.picks runtime = some scene := by
  cases call with
  | tick nowNs => exact absurd rfl (h nowNs)
  | requestNext nowNs holdNs => exact ⟨_, rfl⟩
  | requestPrevious nowNs holdNs => exact ⟨_, rfl⟩

/-- A call that is not an accepted request leaves the hold, but for its expiry on a tick. -/
theorem hold_of_not_accepted {runtime : CartRuntime} (ok : runtime.Configured) {call : RuntimeCall}
    (hcall : ¬ call.Accepted runtime) :
    ((call.apply runtime).manualHoldActive = true ↔ runtime.manualHoldActive = true ∧
        ∀ nowNs, call = tick nowNs → runtime.clampNow nowNs < runtime.manualHoldUntilNs) ∧
      (call.apply runtime).manualSceneIndex = runtime.manualSceneIndex ∧
      (call.apply runtime).manualHoldUntilNs = runtime.manualHoldUntilNs := by
  by_cases htick : ∃ nowNs, call = tick nowNs
  · obtain ⟨nowNs, rfl⟩ := htick
    obtain ⟨hactive, hscene, huntil⟩ := CartRuntime.tick_hold ok nowNs
    refine ⟨?_, hscene, huntil⟩
    show (cartRuntimeTick runtime nowNs).2.manualHoldActive = true ↔ _
    rw [hactive, CartRuntime.expireHold_active_iff]
    simp
  · obtain ⟨scene, hpicks⟩ := picks_of_not_tick runtime (not_exists.mp htick)
    rw [apply_request hpicks]
    have hdenied : runtime.changeAllowed call.nowNs ≠ true :=
      fun h => hcall ⟨by rw [hpicks]; rfl, h⟩
    rcases CartRuntime.requestScene_cases ok.scenes scene call.nowNs call.holdNs with
      ⟨_, heq⟩ | ⟨hallowed, _⟩
    · rw [heq]
      exact ⟨⟨fun h => ⟨h, fun nowNs hcall => absurd ⟨nowNs, hcall⟩ htick⟩, And.left⟩, rfl, rfl⟩
    · exact absurd hallowed hdenied

/-- A hold that is active was set by a request of the history. -/
theorem heldBy_of_active {runtime : CartRuntime} (ok : runtime.Configured)
    (hfree : runtime.manualHoldActive = false) (held : runtime.Held) (calls : List RuntimeCall)
    (hactive : (runCalls runtime calls).manualHoldActive = true) :
    HeldBy runtime calls (runCalls runtime calls).manualSceneIndex
      (runCalls runtime calls).manualHoldUntilNs := by
  induction calls using List.reverseRecOn with
  | nil => exact absurd (hfree.symm.trans hactive) Bool.false_ne_true
  | append_singleton calls call ih =>
      have hconcat : runCalls runtime (calls ++ [call]) = call.apply (runCalls runtime calls) := by
        rw [runCalls, List.foldl_append]
        rfl
      have hok := ok.of_settings (runCalls_held held calls).2
      rw [hconcat] at hactive ⊢
      by_cases hcall : call.Accepted (runCalls runtime calls)
      · obtain ⟨scene, hpicks⟩ := Option.isSome_iff_exists.mp hcall.1
        rw [apply_request hpicks] at hactive ⊢
        rcases CartRuntime.requestScene_cases hok.scenes scene call.nowNs call.holdNs with
          ⟨hdenied, _⟩ | ⟨_, hscene, hhold⟩
        · exact absurd (hdenied.symm.trans hcall.2) Bool.false_ne_true
        · obtain ⟨hne, huntil⟩ := hhold hactive
          rw [hscene, huntil]
          exact ⟨calls, call, [], rfl, hpicks, hcall, hne, rfl, trivial⟩
      · obtain ⟨hbefore, hscene, huntil⟩ := hold_of_not_accepted hok hcall
        rw [hscene, huntil]
        exact (ih (hbefore.mp hactive).1).concat hcall

/-- A held scene stays on through any calls that are neither accepted requests nor ticks at or
after the hold's deadline. -/
theorem held_scene_stays {runtime : CartRuntime} (ok : runtime.Configured) (held : runtime.Held)
    (hactive : runtime.manualHoldActive = true) {calls : List RuntimeCall}
    (hquiet : Quiet runtime calls)
    (hearly : ∀ nowNs, tick nowNs ∈ calls →
      runtime.clampNow nowNs < runtime.manualHoldUntilNs) :
    (runCalls runtime calls).sceneIndex = runtime.sceneIndex := by
  induction calls generalizing runtime with
  | nil => rfl
  | cons call calls ih =>
      obtain ⟨hcall, hrest⟩ := hquiet
      obtain ⟨_, hheld, hsettings⟩ := call.apply_limited held
      obtain ⟨hiff, hmanual, huntil⟩ := hold_of_not_accepted ok hcall
      have hstill : (call.apply runtime).manualHoldActive = true :=
        hiff.mpr ⟨hactive, fun nowNs heq => hearly nowNs (heq ▸ List.mem_cons_self ..)⟩
      have hscene : (call.apply runtime).sceneIndex = runtime.sceneIndex := by
        rw [← hheld hstill, hmanual, held hactive]
      have horigin := (CartRuntime.settings_eq_iff.mp hsettings).2.1
      refine (ih (ok.of_settings hsettings) hheld hstill hrest fun nowNs hmem => ?_).trans hscene
      rw [huntil, CartRuntime.clampNow, horigin]
      exact hearly nowNs (List.mem_cons_of_mem _ hmem)

end RuntimeCall

open CartRuntime RuntimeCall

variable [Target]

omit [Target] in
theorem cartRuntimeInit_free {sceneCount : Nat} {originNs framePeriodNs scenePeriodNs minChangeNs :
    UInt64} {runtime : CartRuntime} (hinit : cartRuntimeInit sceneCount originNs framePeriodNs
      scenePeriodNs minChangeNs = some runtime) : runtime.manualHoldActive = false := by
  unfold cartRuntimeInit at hinit
  split at hinit
  · simp at hinit
  · cases Option.some.inj hinit
    rfl

theorem runCalls_sceneIndex_lt {runtime : CartRuntime} (held : runtime.Held)
    (hlt : runtime.sceneIndex < runtime.sceneCount) (calls : List RuntimeCall) :
    (runCalls runtime calls).sceneIndex < (runCalls runtime calls).sceneCount := by
  induction calls generalizing runtime with
  | nil => exact hlt
  | cons call calls ih =>
      exact ih (call.apply_limited held).2.1 (call.apply_sceneIndex_lt held hlt)

/-- The scene on is one that a request of the history holds. -/
def ShowsHeld (runtime : CartRuntime) (calls : List RuntimeCall) (after : CartRuntime)
    (nowNs : UInt64) : Prop :=
  after.manualHoldActive = true ∧ nowNs < after.manualHoldUntilNs ∧
    HeldBy runtime calls after.sceneIndex after.manualHoldUntilNs

/-- The scene on is the attract loop's. -/
def ShowsAutomatic (after : CartRuntime) (nowNs : UInt64) : Prop :=
  after.manualHoldActive = false ∧
    after.sceneIndex =
      (nowNs.toNat - after.originNs.toNat) / after.scenePeriodNs.toNat % after.sceneCount

/-- The scene before is still on, since the last change is too recent. -/
def Defers (before after : CartRuntime) (nowNs : UInt64) : Prop :=
  after.manualHoldActive = false ∧ 0 < after.minChangeNs ∧ after.hadChange = true ∧
    nowNs.toNat < after.lastChangeNs.toNat + after.minChangeNs.toNat ∧
    after.sceneIndex = before.sceneIndex

omit [Target] in
theorem showsAutomatic_tick {runtime : CartRuntime} (ok : runtime.Configured) {nowNs : UInt64}
    (hfree : (cartRuntimeTick runtime nowNs).2.manualHoldActive = false)
    (hscene : (cartRuntimeTick runtime nowNs).2.sceneIndex =
      runtime.automatic (runtime.clampNow nowNs)) :
    ShowsAutomatic (cartRuntimeTick runtime nowNs).2 (runtime.clampNow nowNs) := by
  obtain ⟨hcount, horigin, _, hperiod, _⟩ :=
    settings_eq_iff.mp (ok.tick_settings nowNs)
  refine ⟨hfree, ?_⟩
  rw [hscene, automatic_eq (origin_le_clampNow runtime nowNs), hcount, horigin, hperiod]

/-- What is on after a tick of a runtime whose hold, if it is active, a request of the history set. -/
theorem tick_shows {runtime before : CartRuntime} {calls : List RuntimeCall}
    (ok : before.Configured)
    (horigin : before.manualHoldActive = true →
      HeldBy runtime calls before.manualSceneIndex before.manualHoldUntilNs) (nowNs : UInt64) :
    ShowsHeld runtime calls (cartRuntimeTick before nowNs).2 (before.clampNow nowNs) ∨
      ShowsAutomatic (cartRuntimeTick before nowNs).2 (before.clampNow nowNs) ∨
        Defers before (cartRuntimeTick before nowNs).2 (before.clampNow nowNs) := by
  obtain ⟨_, _, huntil⟩ := tick_hold ok nowNs
  rcases tick_scene ok nowNs with ⟨hactive, hbefore, hearly, hscene⟩ | ⟨hnone, hscene⟩ |
    ⟨hnone, hdenied, hscene, hlast, hhad⟩
  · refine .inl ⟨hactive, huntil ▸ hearly, ?_⟩
    rw [huntil, hscene]
    exact horigin hbefore
  · exact .inr (.inl (showsAutomatic_tick ok hnone hscene))
  · have hguard := changeAllowed_eq_false_iff.mp hdenied
    have hminafter := (settings_eq_iff.mp (ok.tick_settings nowNs)).2.2.2.2
    refine .inr (.inr ⟨hnone, ?_, ?_, ?_, hscene⟩)
    · exact hminafter ▸ hguard.1
    · exact hhad ▸ hguard.2.1
    · rw [hlast, hminafter]
      exact hguard.2.2

omit [Target] in
/-- The attract loop's scene comes on where neither a hold nor the guard is against it. -/
theorem showsAutomatic_of_free {before : CartRuntime} (ok : before.Configured) {nowNs : UInt64}
    (hexpired : before.manualHoldActive = true →
      before.manualHoldUntilNs ≤ before.clampNow nowNs)
    (hcooled : 0 < before.minChangeNs → before.hadChange = true →
      before.lastChangeNs.toNat + before.minChangeNs.toNat ≤ (before.clampNow nowNs).toNat) :
    ShowsAutomatic (cartRuntimeTick before nowNs).2 (before.clampNow nowNs) := by
  rcases tick_scene ok nowNs with ⟨_, hbefore, hearly, _⟩ | ⟨hnone, hscene⟩ | ⟨_, hdenied, _⟩
  · exact absurd hearly (UInt64.not_lt.mpr (hexpired hbefore))
  · exact showsAutomatic_tick ok hnone hscene
  · obtain ⟨hpos, hhad, hearly⟩ := changeAllowed_eq_false_iff.mp hdenied
    exact absurd hearly (Nat.not_lt.mpr (hcooled hpos hhad))

section

variable {sceneCount : Nat} {originNs framePeriodNs scenePeriodNs minChangeNs : UInt64}
  {runtime : CartRuntime}

/-- What is on after a tick, whatever calls came before it: a scene that a request holds, the
attract loop's, or, while the guard still denies a change, the scene before. A held scene stays on
until a tick at its deadline or an accepted request, and the attract loop's scene comes on with the
first tick that finds neither a hold nor the guard against it. -/
theorem scene_selected
    (hinit : cartRuntimeInit sceneCount originNs framePeriodNs scenePeriodNs minChangeNs =
      some runtime) (calls : List RuntimeCall) :
    (∀ nowNs,
      (cartRuntimeTick (runCalls runtime calls) nowNs).2.sceneIndex < sceneCount ∧
        (ShowsHeld runtime calls (cartRuntimeTick (runCalls runtime calls) nowNs).2
            ((runCalls runtime calls).clampNow nowNs) ∨
          ShowsAutomatic (cartRuntimeTick (runCalls runtime calls) nowNs).2
            ((runCalls runtime calls).clampNow nowNs) ∨
          Defers (runCalls runtime calls) (cartRuntimeTick (runCalls runtime calls) nowNs).2
            ((runCalls runtime calls).clampNow nowNs))) ∧
    (∀ later, (runCalls runtime calls).manualHoldActive = true →
      Quiet (runCalls runtime calls) later →
      (∀ nowNs, tick nowNs ∈ later →
        (runCalls runtime calls).clampNow nowNs < (runCalls runtime calls).manualHoldUntilNs) →
      (runCalls (runCalls runtime calls) later).sceneIndex =
        (runCalls runtime calls).sceneIndex) ∧
    (∀ nowNs,
      ((runCalls runtime calls).manualHoldActive = true →
        (runCalls runtime calls).manualHoldUntilNs ≤ (runCalls runtime calls).clampNow nowNs) →
      (0 < minChangeNs → (runCalls runtime calls).hadChange = true →
        (runCalls runtime calls).lastChangeNs.toNat + minChangeNs.toNat ≤
          ((runCalls runtime calls).clampNow nowNs).toNat) →
      ShowsAutomatic (cartRuntimeTick (runCalls runtime calls) nowNs).2
        ((runCalls runtime calls).clampNow nowNs)) := by
  obtain ⟨held, _, hindex, hsettings⟩ := cartRuntimeInit_some hinit
  have ok := (paced_of_init hinit).configured
  have hfree : runtime.manualHoldActive = false := cartRuntimeInit_free hinit
  simp only [settings, Prod.mk.injEq] at hsettings
  obtain ⟨hheld, hsame⟩ := runCalls_held held calls
  have hok := ok.of_settings hsame
  have hlt := runCalls_sceneIndex_lt held
    (hindex ▸ Nat.pos_of_ne_zero ok.scenes : runtime.sceneIndex < runtime.sceneCount) calls
  have horigin := heldBy_of_active ok hfree held calls
  obtain ⟨hcount, _, _, _, hmin⟩ := settings_eq_iff.mp hsame
  rw [hsettings.1] at hcount
  rw [hsettings.2.2.2.2] at hmin
  revert horigin
  generalize runCalls runtime calls = before at *
  intro horigin
  refine ⟨fun nowNs => ⟨?_, ?_⟩, fun later hactive hquiet hearly =>
    held_scene_stays hok hheld hactive hquiet hearly, fun nowNs hexpired hcooled => ?_⟩
  · exact hcount ▸ cartRuntimeTick_sceneIndex_lt hheld hlt nowNs
  · exact tick_shows hok horigin nowNs
  · rw [← hmin] at hcooled
    exact showsAutomatic_of_free hok hexpired hcooled

end

omit [Target] in
theorem scene_selected_heldOnce :
    letI := armv7
    ∃ runtime, cartRuntimeInit 6 1000 33333333 8000000000 500000000 = some runtime ∧
      (runCalls (runCalls runtime [.requestNext 2000 600000000]) [.tick 5000]).sceneIndex = 1 ∧
      ShowsAutomatic
        (cartRuntimeTick (runCalls runtime [.requestNext 2000 600000000]) 700000000).2
        ((runCalls runtime [.requestNext 2000 600000000]).clampNow 700000000) :=
  letI := armv7
  ⟨_, rfl,
    (@scene_selected armv7 6 1000 33333333 8000000000 500000000 _ rfl
      [.requestNext 2000 600000000]).2.1 [.tick 5000] (by decide)
      ⟨not_accepted_tick _ _, trivial⟩ (by simp; decide),
    (@scene_selected armv7 6 1000 33333333 8000000000 500000000 _ rfl
      [.requestNext 2000 600000000]).2.2 700000000 (by decide) (by decide)⟩

end VitaLinuxPort
