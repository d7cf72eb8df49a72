import Mathlib.Logic.Basic
import VitaLinuxPort.Cart.Runtime

/-!
# What a call does to the scene

Three calls change the scene, through five branches, and only three of those branches ask the guard.
The other two re-assert the held scene on a tick and give up a request that wants the scene already
shown. They change nothing because an active hold always holds the scene that is on, `Held`. So
whatever the call, either the scene and the guard's memory stay as they are, or the guard allowed a
change and remembers it, `Limited`.
-/

namespace VitaLinuxPort

namespace CartRuntime

def lastChange (runtime : CartRuntime) : Option Nat :=
  if runtime.hadChange then some runtime.lastChangeNs.toNat else none

def Held (runtime : CartRuntime) : Prop :=
  runtime.manualHoldActive = true → runtime.manualSceneIndex = runtime.sceneIndex

/-- What any call does to the scene and to the limiter's memory: nothing to either, or a change the
guard allowed and recorded. -/
def Limited (before after : CartRuntime) (nowNs : UInt64) : Prop :=
  (after.sceneIndex = before.sceneIndex ∧ after.lastChange = before.lastChange) ∨
    (after.sceneIndex ≠ before.sceneIndex ∧ before.changeAllowed nowNs = true ∧
      after.lastChange = some nowNs.toNat)

def settings (runtime : CartRuntime) : Nat × UInt64 × UInt64 × UInt64 × UInt64 :=
  (runtime.sceneCount, runtime.originNs, runtime.framePeriodNs, runtime.scenePeriodNs,
    runtime.minChangeNs)

theorem settings_eq_iff {before after : CartRuntime} :
    after.settings = before.settings ↔
      after.sceneCount = before.sceneCount ∧ after.originNs = before.originNs ∧
        after.framePeriodNs = before.framePeriodNs ∧
        after.scenePeriodNs = before.scenePeriodNs ∧ after.minChangeNs = before.minChangeNs := by
  simp only [settings, Prod.mk.injEq]

theorem selectScene_limited {runtime : CartRuntime} (held : runtime.Held) (nowNs : UInt64) :
    Limited runtime (runtime.selectScene nowNs) nowNs ∧ (runtime.selectScene nowNs).Held ∧
      (runtime.selectScene nowNs).settings = runtime.settings := by
  unfold selectScene
  by_cases hactive : runtime.manualHoldActive = true
  · rw [if_pos hactive]
    exact ⟨.inl ⟨held hactive, rfl⟩, fun _ => rfl, rfl⟩
  · rw [if_neg hactive]
    by_cases hother : runtime.automatic nowNs ≠ runtime.sceneIndex
    · rw [if_pos hother]
      by_cases hallowed : runtime.changeAllowed nowNs = true
      · rw [if_pos hallowed]
        exact ⟨.inr ⟨hother, hallowed, rfl⟩, fun h => absurd h hactive, rfl⟩
      · rw [if_neg hallowed]
        exact ⟨.inl ⟨rfl, rfl⟩, held, rfl⟩
    · rw [if_neg hother]
      exact ⟨.inl ⟨rfl, rfl⟩, held, rfl⟩

theorem requestScene_limited {runtime : CartRuntime} (held : runtime.Held)
    (manualSceneIndex : Nat) (nowNs holdNs : UInt64) :
    Limited runtime (runtime.requestScene manualSceneIndex nowNs holdNs) nowNs ∧
      (runtime.requestScene manualSceneIndex nowNs holdNs).Held ∧
      (runtime.requestScene manualSceneIndex nowNs holdNs).settings = runtime.settings := by
  unfold requestScene
  by_cases hcount : runtime.sceneCount = 0
  · rw [if_pos hcount]
    exact ⟨.inl ⟨rfl, rfl⟩, held, rfl⟩
  rw [if_neg hcount]
  by_cases hallowed : runtime.changeAllowed nowNs = true
  · rw [hallowed, Bool.not_true, if_neg Bool.false_ne_true]
    by_cases hother : manualSceneIndex ≠ runtime.sceneIndex
    · rw [if_pos hother]
      dsimp only
      split
      · exact ⟨.inr ⟨hother, hallowed, rfl⟩, fun _ => rfl, rfl⟩
      · exact ⟨.inr ⟨hother, hallowed, rfl⟩, fun _ => rfl, rfl⟩
    · rw [if_neg hother]
      have hsame : manualSceneIndex = runtime.sceneIndex := not_not.mp hother
      dsimp only
      split
      · exact ⟨.inl ⟨hsame, rfl⟩, fun _ => rfl, rfl⟩
      · exact ⟨.inl ⟨hsame, rfl⟩, fun _ => rfl, rfl⟩
  · rw [Bool.not_eq_true] at hallowed
    rw [hallowed, Bool.not_false, if_pos rfl]
    exact ⟨.inl ⟨rfl, rfl⟩, held, rfl⟩

theorem expireHold_held {runtime : CartRuntime} (held : runtime.Held) (nowNs : UInt64) :
    (runtime.expireHold nowNs).Held := by
  intro h
  simp only [expireHold, Bool.and_eq_true] at h
  exact held h.1

theorem cartRuntimeTick_limited {runtime : CartRuntime} (held : runtime.Held) (nowNs : UInt64) :
    Limited runtime (cartRuntimeTick runtime nowNs).2 (runtime.clampNow nowNs) ∧
      (cartRuntimeTick runtime nowNs).2.Held ∧
      (cartRuntimeTick runtime nowNs).2.settings = runtime.settings := by
  unfold cartRuntimeTick
  split
  · exact ⟨.inl ⟨rfl, rfl⟩, held, rfl⟩
  · dsimp only
    generalize runtime.clampNow nowNs = nowNs
    obtain ⟨hlimited, hheld, hsettings⟩ := selectScene_limited (expireHold_held held nowNs) nowNs
    obtain ⟨_, _, _, hframe⟩ :=
      ((runtime.expireHold nowNs).selectScene nowNs).advanceDeadline_frame nowNs
    rw [hframe]
    exact ⟨hlimited, hheld, hsettings⟩

theorem automatic_lt {runtime : CartRuntime} (hcount : 0 < runtime.sceneCount) (nowNs : UInt64) :
    runtime.automatic nowNs < runtime.sceneCount :=
  Nat.mod_lt _ hcount

theorem selectScene_sceneIndex_lt {runtime : CartRuntime} (held : runtime.Held)
    (hlt : runtime.sceneIndex < runtime.sceneCount) (nowNs : UInt64) :
    (runtime.selectScene nowNs).sceneIndex < runtime.sceneCount := by
  unfold selectScene
  split
  · next hactive => exact (held hactive).symm ▸ hlt
  · split
    · split
      · exact automatic_lt (by omega) nowNs
      · exact hlt
    · exact hlt

theorem requestScene_sceneIndex_lt {runtime : CartRuntime}
    (hlt : runtime.sceneIndex < runtime.sceneCount) {manualSceneIndex : Nat}
    (hmanual : manualSceneIndex < runtime.sceneCount) (nowNs holdNs : UInt64) :
    (runtime.requestScene manualSceneIndex nowNs holdNs).sceneIndex < runtime.sceneCount := by
  unfold requestScene
  split
  · exact hlt
  · split
    · exact hlt
    · dsimp only
      split
      · exact hmanual
      · exact hmanual

theorem cartRuntimeTick_sceneIndex_lt {runtime : CartRuntime} (held : runtime.Held)
    (hlt : runtime.sceneIndex < runtime.sceneCount) (nowNs : UInt64) :
    (cartRuntimeTick runtime nowNs).2.sceneIndex < runtime.sceneCount := by
  unfold cartRuntimeTick
  split
  · exact hlt
  · dsimp only
    generalize runtime.clampNow nowNs = nowNs
    obtain ⟨_, _, _, hframe⟩ :=
      ((runtime.expireHold nowNs).selectScene nowNs).advanceDeadline_frame nowNs
    rw [hframe]
    exact selectScene_sceneIndex_lt (expireHold_held held nowNs) hlt nowNs

end CartRuntime

theorem cartRuntimeInit_some {sceneCount : Nat} {originNs framePeriodNs scenePeriodNs minChangeNs :
    UInt64} {runtime : CartRuntime} (hinit : cartRuntimeInit sceneCount originNs framePeriodNs
      scenePeriodNs minChangeNs = some runtime) :
    runtime.Held ∧ runtime.lastChange = none ∧ runtime.sceneIndex = 0 ∧
      runtime.settings =
        (sceneCount, originNs, framePeriodNs, scenePeriodNs, minChangeNs) := by
  unfold cartRuntimeInit at hinit
  split at hinit
  · simp at hinit
  · cases Option.some.inj hinit
    exact ⟨fun h => absurd h Bool.false_ne_true, rfl, rfl, rfl⟩

inductive RuntimeCall where
  | tick (nowNs : UInt64)
  | requestNext (nowNs holdNs : UInt64)
  | requestPrevious (nowNs holdNs : UInt64)
  deriving DecidableEq

namespace RuntimeCall

def nowNs : RuntimeCall → UInt64
  | tick nowNs => nowNs
  | requestNext nowNs _ => nowNs
  | requestPrevious nowNs _ => nowNs

/-- The time a call acts at: a tick takes the origin for any earlier reading. -/
def actsAt (runtime : CartRuntime) : RuntimeCall → UInt64
  | tick nowNs => runtime.clampNow nowNs
  | requestNext nowNs _ => nowNs
  | requestPrevious nowNs _ => nowNs

theorem actsAt_of_le {runtime : CartRuntime} {call : RuntimeCall}
    (hnow : runtime.originNs ≤ call.nowNs) : call.actsAt runtime = call.nowNs := by
  cases call with
  | tick nowNs => exact CartRuntime.clampNow_of_le hnow
  | requestNext nowNs holdNs => rfl
  | requestPrevious nowNs holdNs => rfl

variable [Target]

def apply (runtime : CartRuntime) : RuntimeCall → CartRuntime
  | tick nowNs => (cartRuntimeTick runtime nowNs).2
  | requestNext nowNs holdNs => cartRuntimeRequestNext runtime nowNs holdNs
  | requestPrevious nowNs holdNs => cartRuntimeRequestPrevious runtime nowNs holdNs

open CartRuntime in
theorem apply_limited {runtime : CartRuntime} (held : runtime.Held) (call : RuntimeCall) :
    Limited runtime (call.apply runtime) (call.actsAt runtime) ∧ (call.apply runtime).Held ∧
      (call.apply runtime).settings = runtime.settings := by
  cases call with
  | tick nowNs => exact cartRuntimeTick_limited held nowNs
  | requestNext nowNs holdNs => exact requestScene_limited held _ nowNs holdNs
  | requestPrevious nowNs holdNs => exact requestScene_limited held _ nowNs holdNs

/-- A call wants another scene than the one on: a tick for which no hold is left and the attract
loop is elsewhere, or a request when there is more than one scene. -/
def Wants (runtime : CartRuntime) : RuntimeCall → Prop
  | tick nowNs =>
      (runtime.expireHold (runtime.clampNow nowNs)).manualHoldActive = false ∧
        runtime.automatic (runtime.clampNow nowNs) ≠ runtime.sceneIndex
  | requestNext _ _ => 1 < runtime.sceneCount
  | requestPrevious _ _ => 1 < runtime.sceneCount

theorem apply_sceneIndex_lt {runtime : CartRuntime} (held : runtime.Held)
    (hlt : runtime.sceneIndex < runtime.sceneCount) (call : RuntimeCall) :
    (call.apply runtime).sceneIndex < (call.apply runtime).sceneCount := by
  have hcount : 0 < runtime.sceneCount := by omega
  have hsame := (CartRuntime.settings_eq_iff.mp (call.apply_limited held).2.2).1
  rw [hsame]
  cases call with
  | tick nowNs => exact CartRuntime.cartRuntimeTick_sceneIndex_lt held hlt nowNs
  | requestNext nowNs holdNs =>
      exact CartRuntime.requestScene_sceneIndex_lt hlt (Nat.mod_lt _ hcount) nowNs holdNs
  | requestPrevious nowNs holdNs =>
      exact CartRuntime.requestScene_sceneIndex_lt hlt (Nat.mod_lt _ hcount) nowNs holdNs

omit [Target] in
theorem tick_changes_iff {runtime : CartRuntime} (held : runtime.Held)
    (hlt : runtime.sceneIndex < runtime.sceneCount) (hframe : runtime.framePeriodNs ≠ 0)
    (hperiod : runtime.scenePeriodNs ≠ 0) (nowNs : UInt64) :
    (cartRuntimeTick runtime nowNs).2.sceneIndex ≠ runtime.sceneIndex ↔
      runtime.changeAllowed (runtime.clampNow nowNs) = true ∧
        (RuntimeCall.tick nowNs).Wants runtime := by
  rw [cartRuntimeTick, if_neg (by simp [hframe, hperiod]; omega)]
  dsimp only [Wants]
  generalize runtime.clampNow nowNs = nowNs
  obtain ⟨_, _, _, hdeadline⟩ :=
    ((runtime.expireHold nowNs).selectScene nowNs).advanceDeadline_frame nowNs
  rw [hdeadline]
  -- the expiry of a hold touches neither the guard nor the attract loop
  have hguard : (runtime.expireHold nowNs).changeAllowed nowNs = runtime.changeAllowed nowNs := rfl
  have hauto : (runtime.expireHold nowNs).automatic nowNs = runtime.automatic nowNs := rfl
  have hscene : (runtime.expireHold nowNs).sceneIndex = runtime.sceneIndex := rfl
  show ((runtime.expireHold nowNs).selectScene nowNs).sceneIndex ≠ _ ↔ _
  rw [CartRuntime.selectScene, hguard, hauto, hscene]
  by_cases hactive : (runtime.expireHold nowNs).manualHoldActive = true
  · rw [if_pos hactive]
    have hsame : runtime.manualSceneIndex = runtime.sceneIndex :=
      CartRuntime.expireHold_held held nowNs hactive
    show runtime.manualSceneIndex ≠ runtime.sceneIndex ↔ _
    simp [hsame, hactive]
  · rw [if_neg hactive]
    rw [Bool.not_eq_true] at hactive
    by_cases hother : runtime.automatic nowNs ≠ runtime.sceneIndex
    · rw [if_pos hother]
      cases hallowed : runtime.changeAllowed nowNs with
      | true => simp [hactive, CartRuntime.recordChange, hother]
      | false => simp [hscene]
    · rw [if_neg hother]
      simp [hscene, not_not.mp hother]

omit [Target] in
theorem requestScene_changes_iff {runtime : CartRuntime} (hcount : runtime.sceneCount ≠ 0)
    {manualSceneIndex : Nat} (hother : manualSceneIndex ≠ runtime.sceneIndex)
    (nowNs holdNs : UInt64) :
    (runtime.requestScene manualSceneIndex nowNs holdNs).sceneIndex ≠ runtime.sceneIndex ↔
      runtime.changeAllowed nowNs = true := by
  rw [CartRuntime.requestScene, if_neg hcount]
  cases hallowed : runtime.changeAllowed nowNs with
  | false => simp
  | true =>
      simp only [Bool.not_true, Bool.false_eq_true, if_false, iff_true]
      split
      · exact hother
      · exact hother

theorem next_ne {sceneIndex sceneCount : Nat} (hlt : sceneIndex < sceneCount)
    (hmore : 1 < sceneCount) (hsize : 2 * sceneCount ≤ 2 ^ Target.sizeBits) :
    sizeAdd sceneIndex 1 % sceneCount ≠ sceneIndex := by
  rw [sizeAdd_of_lt (by omega)]
  by_cases hlast : sceneIndex + 1 = sceneCount
  · rw [hlast, Nat.mod_self]
    omega
  · rw [Nat.mod_eq_of_lt (by omega)]
    omega

theorem previous_ne {sceneIndex sceneCount : Nat} (hlt : sceneIndex < sceneCount)
    (hmore : 1 < sceneCount) (hsize : 2 * sceneCount ≤ 2 ^ Target.sizeBits) :
    sizeSub (sizeAdd sceneIndex sceneCount) 1 % sceneCount ≠ sceneIndex := by
  rw [sizeAdd_of_lt (by omega), sizeSub_of_le (by omega) (by omega)]
  by_cases hfirst : sceneIndex = 0
  · rw [hfirst, Nat.zero_add, Nat.mod_eq_of_lt (by omega)]
    omega
  · rw [show sceneIndex + sceneCount - 1 = sceneIndex - 1 + sceneCount by omega, Nat.add_mod_right,
      Nat.mod_eq_of_lt (by omega)]
    omega

/-- A call changes the scene exactly when it wants another one and the guard allows the change. -/
theorem apply_changes_iff {runtime : CartRuntime} (held : runtime.Held)
    (hlt : runtime.sceneIndex < runtime.sceneCount) (hframe : runtime.framePeriodNs ≠ 0)
    (hperiod : runtime.scenePeriodNs ≠ 0) (hmore : 1 < runtime.sceneCount)
    (hsize : 2 * runtime.sceneCount ≤ 2 ^ Target.sizeBits) (call : RuntimeCall) :
    (call.apply runtime).sceneIndex ≠ runtime.sceneIndex ↔
      runtime.changeAllowed (call.actsAt runtime) = true ∧ call.Wants runtime := by
  have hcount : runtime.sceneCount ≠ 0 := by omega
  cases call with
  | tick nowNs => exact tick_changes_iff held hlt hframe hperiod nowNs
  | requestNext nowNs holdNs =>
      have hother := requestScene_changes_iff hcount (next_ne hlt hmore hsize) nowNs holdNs
      exact hother.trans (and_iff_left hmore).symm
  | requestPrevious nowNs holdNs =>
      have hother := requestScene_changes_iff hcount (previous_ne hlt hmore hsize) nowNs holdNs
      exact hother.trans (and_iff_left hmore).symm

end RuntimeCall

end VitaLinuxPort
