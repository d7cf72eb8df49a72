import VitaLinuxPort.Lib.CInt
import VitaLinuxPort.Lib.Pacer
import VitaLinuxPort.Proof.Runtime.Calls

/-!
# The deadlines of a run of ticks

The deadline fields of the runtime are a pacer whose times are the times the ticks succeed at,
clamped to the origin. The 64-bit counters follow the pacer's numbers as long as these fit, and what
the pacer accounts for shows that they do: a dropped deadline is a period of time that a 64-bit
clock has gone through.
-/

namespace VitaLinuxPort

namespace CartRuntime

def pacer (runtime : CartRuntime) (served : Nat) : Pacer where
  origin := runtime.originNs.toNat
  period := runtime.framePeriodNs.toNat
  deadline := runtime.nextDeadlineNs.toNat
  served := served
  dropped := runtime.droppedDeadlines.toNat

/-- What the deadline part of a tick can do: find the deadline still to come, fail next to the
64-bit limit, move the deadline one period, or drop the periods missed. -/
theorem advanceDeadline_cases (runtime : CartRuntime) (nowNs : UInt64) :
    (nowNs < runtime.nextDeadlineNs ∧
      runtime.advanceDeadline nowNs =
        (0, { runtime with sleepNs := runtime.nextDeadlineNs - nowNs })) ∨
    (runtime.nextDeadlineNs ≤ nowNs ∧ uint64Max - runtime.framePeriodNs < nowNs ∧
      runtime.advanceDeadline nowNs = (-1, runtime)) ∨
    (runtime.nextDeadlineNs ≤ nowNs ∧ nowNs ≤ uint64Max - runtime.framePeriodNs ∧
      nowNs - runtime.nextDeadlineNs < runtime.framePeriodNs ∧
      runtime.advanceDeadline nowNs =
        (0, { runtime with
          nextDeadlineNs := runtime.nextDeadlineNs + runtime.framePeriodNs
          sleepNs := runtime.nextDeadlineNs + runtime.framePeriodNs - nowNs })) ∨
    (runtime.nextDeadlineNs ≤ nowNs ∧ nowNs ≤ uint64Max - runtime.framePeriodNs ∧
      runtime.framePeriodNs ≤ nowNs - runtime.nextDeadlineNs ∧
      runtime.advanceDeadline nowNs =
        (0, { runtime with
          droppedDeadlines := runtime.droppedDeadlines +
            (nowNs - runtime.nextDeadlineNs) / runtime.framePeriodNs
          nextDeadlineNs := nowNs + runtime.framePeriodNs
          sleepNs := nowNs + runtime.framePeriodNs - nowNs })) := by
  unfold advanceDeadline
  by_cases hearly : nowNs < runtime.nextDeadlineNs
  · rw [if_pos hearly]
    exact .inl ⟨hearly, rfl⟩
  rw [if_neg hearly]
  have hreached : runtime.nextDeadlineNs ≤ nowNs := UInt64.not_lt.mp hearly
  by_cases hlimit : nowNs > uint64Max - runtime.framePeriodNs
  · rw [if_pos hlimit]
    exact .inr (.inl ⟨hreached, hlimit, rfl⟩)
  rw [if_neg hlimit]
  have hroom : nowNs ≤ uint64Max - runtime.framePeriodNs := UInt64.not_lt.mp hlimit
  dsimp only
  by_cases hlate : nowNs - runtime.nextDeadlineNs < runtime.framePeriodNs
  · -- the second look at the limit never fails: the deadline is no later than the time
    rw [if_pos hlate, if_neg (UInt64.not_lt.mpr (UInt64.le_trans hreached hroom))]
    exact .inr (.inr (.inl ⟨hreached, hroom, hlate, rfl⟩))
  · rw [if_neg hlate]
    exact .inr (.inr (.inr ⟨hreached, hroom, UInt64.not_lt.mp hlate, rfl⟩))

theorem add_period_lt {nowNs framePeriodNs : UInt64} (h : nowNs ≤ uint64Max - framePeriodNs) :
    nowNs.toNat + framePeriodNs.toNat < 2 ^ 64 := by
  have hle : framePeriodNs ≤ uint64Max := by
    rw [UInt64.le_iff_toNat_le]
    have := framePeriodNs.toNat_lt
    show framePeriodNs.toNat ≤ 18446744073709551615
    omega
  rw [UInt64.le_iff_toNat_le, UInt64.toNat_sub_of_le _ _ hle] at h
  have hmax : uint64Max.toNat = 18446744073709551615 := rfl
  have := UInt64.le_iff_toNat_le.mp hle
  omega

theorem toNat_add_of_lt {left right : UInt64} (h : left.toNat + right.toNat < 2 ^ 64) :
    (left + right).toNat = left.toNat + right.toNat := by
  rw [UInt64.toNat_add, Nat.mod_eq_of_lt h]

theorem toNat_pos_of_ne_zero {value : UInt64} (h : value ≠ 0) : 0 < value.toNat :=
  UInt64.lt_iff_toNat_lt.mp (UInt64.pos_iff_ne_zero.mpr h)

/-- The count of dropped deadlines has room for what a tick adds: with it, what the pacer accounts
for still lies before a deadline that is no later than the time. -/
theorem droppedDeadlines_add_lt {runtime : CartRuntime} {served : Nat}
    (haccounted : (runtime.pacer served).Accounted) (hperiod : runtime.framePeriodNs ≠ 0)
    {nowNs : UInt64} (hreached : runtime.nextDeadlineNs ≤ nowNs) :
    runtime.droppedDeadlines.toNat +
      ((nowNs - runtime.nextDeadlineNs) / runtime.framePeriodNs).toNat < 2 ^ 64 := by
  have hle := UInt64.le_iff_toNat_le.mp hreached
  have hcounted := haccounted.counted_lt (toNat_pos_of_ne_zero hperiod)
  have hquotient := Nat.div_le_self (nowNs.toNat - runtime.nextDeadlineNs.toNat)
    runtime.framePeriodNs.toNat
  have hnow := nowNs.toNat_lt
  rw [UInt64.toNat_div, UInt64.toNat_sub_of_le _ _ hreached]
  simp only [pacer] at hcounted
  omega

/-- Where the deadline part succeeds it advances the pacer, by one job served if the deadline was
reached, and sleeps to the new deadline. It fails only where a period more does not fit. -/
theorem advanceDeadline_pacer {runtime : CartRuntime} {served : Nat}
    (haccounted : (runtime.pacer served).Accounted) (hperiod : runtime.framePeriodNs ≠ 0)
    (nowNs : UInt64) :
    ((runtime.advanceDeadline nowNs).1 = 0 ∧
      (runtime.advanceDeadline nowNs).2.pacer
          (served + if runtime.nextDeadlineNs ≤ nowNs then 1 else 0) =
        (runtime.pacer served).advance nowNs.toNat ∧
      (runtime.advanceDeadline nowNs).2.sleepNs =
        (runtime.advanceDeadline nowNs).2.nextDeadlineNs - nowNs) ∨
    ((runtime.advanceDeadline nowNs).1 = -1 ∧ runtime.nextDeadlineNs ≤ nowNs ∧
      uint64Max - runtime.framePeriodNs < nowNs ∧
      (runtime.advanceDeadline nowNs).2 = runtime) := by
  rcases runtime.advanceDeadline_cases nowNs with ⟨hearly, heq⟩ | ⟨hreached, hlimit, heq⟩ |
    ⟨hreached, hroom, hlate, heq⟩ | ⟨hreached, hroom, hlate, heq⟩
  · refine .inl ?_
    rw [heq, if_neg (UInt64.not_le.mpr hearly)]
    exact ⟨rfl, (Pacer.advance_of_lt (UInt64.lt_iff_toNat_lt.mp hearly)).symm, rfl⟩
  · rw [heq]
    exact .inr ⟨rfl, hreached, hlimit, rfl⟩
  · refine .inl ?_
    rw [heq, if_pos hreached]
    refine ⟨rfl, ?_, rfl⟩
    have hle := UInt64.le_iff_toNat_le.mp hreached
    have hfits := add_period_lt hroom
    rw [UInt64.lt_iff_toNat_lt, UInt64.toNat_sub_of_le _ _ hreached] at hlate
    rw [Pacer.advance_of_late hle hlate]
    show Pacer.mk _ _ (runtime.nextDeadlineNs + runtime.framePeriodNs).toNat _ _ = _
    rw [toNat_add_of_lt (by omega)]
    rfl
  · refine .inl ?_
    rw [heq, if_pos hreached]
    refine ⟨rfl, ?_, rfl⟩
    have hle := UInt64.le_iff_toNat_le.mp hreached
    have hfits := add_period_lt hroom
    rw [UInt64.le_iff_toNat_le, UInt64.toNat_sub_of_le _ _ hreached] at hlate
    have hdropped := droppedDeadlines_add_lt haccounted hperiod hreached
    rw [Pacer.advance_of_missed hle hlate]
    show Pacer.mk _ _ (nowNs + runtime.framePeriodNs).toNat _ (runtime.droppedDeadlines +
      (nowNs - runtime.nextDeadlineNs) / runtime.framePeriodNs).toNat = _
    rw [toNat_add_of_lt hfits, toNat_add_of_lt hdropped, UInt64.toNat_div,
      UInt64.toNat_sub_of_le _ _ hreached]
    rfl

/-- The scene part of a tick writes the scene and the guard's memory only. -/
theorem selectScene_frame (runtime : CartRuntime) (nowNs : UInt64) :
    ∃ sceneIndex lastChangeNs hadChange,
      runtime.selectScene nowNs =
        { runtime with
          sceneIndex := sceneIndex
          lastChangeNs := lastChangeNs
          hadChange := hadChange } := by
  unfold selectScene
  split
  · exact ⟨_, _, _, rfl⟩
  · split
    · split
      · exact ⟨_, _, _, rfl⟩
      · exact ⟨_, _, _, rfl⟩
    · exact ⟨_, _, _, rfl⟩

/-- What `cart_runtime_init` checks and no call changes. -/
structure Configured (runtime : CartRuntime) : Prop where
  scenes : runtime.sceneCount ≠ 0
  frame : runtime.framePeriodNs ≠ 0
  scene : runtime.scenePeriodNs ≠ 0

theorem Configured.of_settings {before after : CartRuntime} (ok : before.Configured)
    (h : after.settings = before.settings) : after.Configured := by
  obtain ⟨hcount, _, hframe, hscene, _⟩ := settings_eq_iff.mp h
  exact ⟨hcount ▸ ok.scenes, hframe ▸ ok.frame, hscene ▸ ok.scene⟩

theorem Configured.tick_eq {runtime : CartRuntime} (ok : runtime.Configured) (nowNs : UInt64) :
    cartRuntimeTick runtime nowNs =
      ((runtime.expireHold (runtime.clampNow nowNs)).selectScene
        (runtime.clampNow nowNs)).advanceDeadline (runtime.clampNow nowNs) := by
  rw [cartRuntimeTick, if_neg (by simp [ok.scenes, ok.frame, ok.scene])]

theorem origin_le_clampNow (runtime : CartRuntime) (nowNs : UInt64) :
    runtime.originNs ≤ runtime.clampNow nowNs := by
  unfold clampNow
  split
  · exact UInt64.le_refl _
  · next h => exact UInt64.not_lt.mp h

theorem toNat_clampNow (runtime : CartRuntime) (nowNs : UInt64) :
    (runtime.clampNow nowNs).toNat = max runtime.originNs.toNat nowNs.toNat := by
  unfold clampNow
  split
  · next h =>
      have := UInt64.lt_iff_toNat_lt.mp h
      omega
  · next h =>
      have := UInt64.le_iff_toNat_le.mp (UInt64.not_lt.mp h)
      omega

theorem Configured.tick_settings {runtime : CartRuntime} (ok : runtime.Configured)
    (nowNs : UInt64) : (cartRuntimeTick runtime nowNs).2.settings = runtime.settings := by
  rw [ok.tick_eq]
  generalize runtime.clampNow nowNs = nowNs
  obtain ⟨_, _, _, hscene⟩ := (runtime.expireHold nowNs).selectScene_frame nowNs
  obtain ⟨_, _, _, hdeadline⟩ :=
    ((runtime.expireHold nowNs).selectScene nowNs).advanceDeadline_frame nowNs
  rw [hdeadline, hscene]
  rfl

/-- A tick that succeeds advances the pacer at its time, and one that fails leaves it. -/
theorem cartRuntimeTick_pacer {runtime : CartRuntime} (ok : runtime.Configured) {served : Nat}
    (haccounted : (runtime.pacer served).Accounted) (nowNs : UInt64) :
    ((cartRuntimeTick runtime nowNs).1 = 0 ∧
      (cartRuntimeTick runtime nowNs).2.pacer
          (served + if runtime.nextDeadlineNs ≤ runtime.clampNow nowNs then 1 else 0) =
        (runtime.pacer served).advance (runtime.clampNow nowNs).toNat ∧
      (cartRuntimeTick runtime nowNs).2.sleepNs =
        (cartRuntimeTick runtime nowNs).2.nextDeadlineNs - runtime.clampNow nowNs) ∨
    ((cartRuntimeTick runtime nowNs).1 = -1 ∧
      runtime.nextDeadlineNs ≤ runtime.clampNow nowNs ∧
      uint64Max - runtime.framePeriodNs < runtime.clampNow nowNs ∧
      (cartRuntimeTick runtime nowNs).2.pacer served = runtime.pacer served) := by
  rw [ok.tick_eq]
  generalize runtime.clampNow nowNs = nowNs
  obtain ⟨_, _, _, hframe⟩ := (runtime.expireHold nowNs).selectScene_frame nowNs
  rw [hframe]
  rcases @advanceDeadline_pacer { runtime.expireHold nowNs with
    sceneIndex := _, lastChangeNs := _, hadChange := _ } served haccounted ok.frame nowNs with
    hdone | ⟨hret, hreached, hlimit, hsame⟩
  · exact .inl hdone
  · refine .inr ⟨hret, hreached, hlimit, ?_⟩
    rw [hsame]
    rfl

/-- A tick succeeds and finds its deadline reached. -/
def Serves (runtime : CartRuntime) (nowNs : UInt64) : Prop :=
  (cartRuntimeTick runtime nowNs).1 = 0 ∧ runtime.nextDeadlineNs ≤ runtime.clampNow nowNs

instance (runtime : CartRuntime) (nowNs : UInt64) : Decidable (runtime.Serves nowNs) :=
  inferInstanceAs (Decidable (_ ∧ _))

/-- The invariant of a run of ticks: so many were served, and none was at a time after `latest`. -/
structure Paced (runtime : CartRuntime) (served latest : Nat) : Prop where
  configured : runtime.Configured
  origin_le : runtime.originNs.toNat ≤ latest
  accounted : (runtime.pacer served).Accounted
  within : (runtime.pacer served).Within latest

namespace Paced

variable {runtime : CartRuntime} {served latest : Nat}

theorem tick (paced : runtime.Paced served latest) (nowNs : UInt64) :
    (cartRuntimeTick runtime nowNs).2.Paced
      (served + if runtime.Serves nowNs then 1 else 0) (max latest nowNs.toNat) := by
  have hsettings := paced.configured.tick_settings nowNs
  have horigin := (settings_eq_iff.mp hsettings).2.1
  have hlatest : max latest nowNs.toNat = max latest (runtime.clampNow nowNs).toNat := by
    have := paced.origin_le
    rw [toNat_clampNow]
    omega
  have hpacer : ∃ now ≤ max latest (runtime.clampNow nowNs).toNat,
      (cartRuntimeTick runtime nowNs).2.pacer (served + if runtime.Serves nowNs then 1 else 0) =
          (runtime.pacer served).advance now ∨
        (cartRuntimeTick runtime nowNs).2.pacer
          (served + if runtime.Serves nowNs then 1 else 0) = runtime.pacer served := by
    rcases cartRuntimeTick_pacer paced.configured paced.accounted nowNs with
      ⟨hret, hadvance, _⟩ | ⟨hret, _, _, hsame⟩
    · refine ⟨_, Nat.le_max_right _ _, .inl ?_⟩
      simpa only [Serves, hret, true_and] using hadvance
    · refine ⟨_, Nat.le_max_right _ _, .inr ?_⟩
      rw [if_neg (fun h => by simp [Serves, hret] at h)]
      exact hsame
  rw [hlatest]
  have hwithin := paced.within.mono (Nat.le_max_left latest (runtime.clampNow nowNs).toNat)
  obtain ⟨now, hnow, heq⟩ := hpacer
  refine ⟨paced.configured.of_settings hsettings, ?_, ?_, ?_⟩
  · rw [horigin]
    exact paced.origin_le.trans (Nat.le_max_left _ _)
  · rcases heq with heq | heq
    · rw [heq]
      exact Pacer.advance_accounted paced.accounted now
    · rw [heq]
      exact paced.accounted
  · rcases heq with heq | heq
    · rw [heq]
      exact hwithin.advance hnow
    · rw [heq]
      exact hwithin

end Paced

/-- The runtime after a tick at each of the times, whether the ticks succeed or not. -/
def runTicks (runtime : CartRuntime) (times : List UInt64) : CartRuntime :=
  times.foldl (fun runtime nowNs => (cartRuntimeTick runtime nowNs).2) runtime

/-- The number of successful ticks that found their deadline reached. -/
def servedTicks : CartRuntime → List UInt64 → Nat
  | _, [] => 0
  | runtime, nowNs :: times =>
      (if runtime.Serves nowNs then 1 else 0) + servedTicks (cartRuntimeTick runtime nowNs).2 times

/-- The latest time the ticks were at, and the origin before any. -/
def latestNs (originNs : UInt64) (times : List UInt64) : Nat :=
  times.foldl (fun latest nowNs => max latest nowNs.toNat) originNs.toNat

theorem Paced.run {runtime : CartRuntime} {served latest : Nat}
    (paced : runtime.Paced served latest) (times : List UInt64) :
    (runtime.runTicks times).Paced (served + runtime.servedTicks times)
      (times.foldl (fun latest nowNs => max latest nowNs.toNat) latest) := by
  induction times generalizing runtime served latest with
  | nil => exact paced
  | cons nowNs times ih =>
      have hrest := ih (paced.tick nowNs)
      rwa [Nat.add_assoc] at hrest

theorem runTicks_settings {runtime : CartRuntime} (ok : runtime.Configured)
    (times : List UInt64) : (runtime.runTicks times).settings = runtime.settings := by
  induction times generalizing runtime with
  | nil => rfl
  | cons nowNs times ih =>
      have hsettings := ok.tick_settings nowNs
      exact (ih (ok.of_settings hsettings)).trans hsettings

theorem paced_of_init {sceneCount : Nat} {originNs framePeriodNs scenePeriodNs minChangeNs : UInt64}
    {runtime : CartRuntime} (hinit : cartRuntimeInit sceneCount originNs framePeriodNs scenePeriodNs
      minChangeNs = some runtime) : runtime.Paced 0 originNs.toNat := by
  unfold cartRuntimeInit at hinit
  split at hinit
  · simp at hinit
  · next hvalid =>
    simp only [not_or, UInt64.not_le] at hvalid
    obtain ⟨hscenes, hframe, hscene, horigin⟩ := hvalid
    have hfits : originNs.toNat + framePeriodNs.toNat < 2 ^ 64 :=
      add_period_lt (UInt64.le_of_lt horigin)
    cases Option.some.inj hinit
    refine ⟨⟨hscenes, hframe, hscene⟩, Nat.le_refl _, ?_, ?_⟩
    · show Pacer.Accounted (Pacer.mk _ _ (originNs + framePeriodNs).toNat _ _)
      rw [toNat_add_of_lt hfits]
      exact Pacer.start_accounted originNs.toNat framePeriodNs.toNat
    · show Pacer.Within (Pacer.mk _ _ (originNs + framePeriodNs).toNat _ _) _
      rw [toNat_add_of_lt hfits]
      exact Pacer.start_within (Nat.le_refl originNs.toNat)

/-- The deadlines a tick drops, over the integers. -/
def droppedBy (runtime : CartRuntime) (nowNs : UInt64) : Nat :=
  if runtime.Serves nowNs then
    ((runtime.clampNow nowNs).toNat - runtime.nextDeadlineNs.toNat) / runtime.framePeriodNs.toNat
  else 0

namespace Paced

variable {runtime : CartRuntime} {served latest : Nat}

theorem dropped_tick (paced : runtime.Paced served latest) (nowNs : UInt64) :
    (cartRuntimeTick runtime nowNs).2.droppedDeadlines.toNat =
      runtime.droppedDeadlines.toNat + runtime.droppedBy nowNs := by
  rcases cartRuntimeTick_pacer paced.configured paced.accounted nowNs with
    ⟨hret, hadvance, _⟩ | ⟨hret, _, _, hsame⟩
  · have hdropped := (congrArg Pacer.dropped hadvance).trans (Pacer.advance_dropped _ _)
    refine hdropped.trans (congrArg (runtime.droppedDeadlines.toNat + ·) ?_)
    unfold droppedBy
    split
    · rfl
    · next hserves =>
        have hearly : ¬ runtime.nextDeadlineNs ≤ runtime.clampNow nowNs :=
          fun h => hserves ⟨hret, h⟩
        have := UInt64.lt_iff_toNat_lt.mp (UInt64.not_le.mp hearly)
        show ((runtime.clampNow nowNs).toNat - runtime.nextDeadlineNs.toNat) / _ = 0
        rw [Nat.sub_eq_zero_of_le (by omega), Nat.zero_div]
  · rw [droppedBy, if_neg (fun h => by simp [Serves, hret] at h)]
    exact congrArg Pacer.dropped hsame

theorem deadline_le_tick (paced : runtime.Paced served latest) (nowNs : UInt64) :
    runtime.nextDeadlineNs ≤ (cartRuntimeTick runtime nowNs).2.nextDeadlineNs := by
  rw [UInt64.le_iff_toNat_le]
  rcases cartRuntimeTick_pacer paced.configured paced.accounted nowNs with
    ⟨_, hadvance, _⟩ | ⟨_, _, _, hsame⟩
  · have hdeadline := congrArg Pacer.deadline hadvance
    exact (Pacer.deadline_le_advance (runtime.pacer served) _).trans (Nat.le_of_eq hdeadline.symm)
  · exact Nat.le_of_eq (congrArg Pacer.deadline hsame).symm

end Paced

/-- `advanceDeadline` with its additions checked. -/
def advanceDeadlineChecked (runtime : CartRuntime) (nowNs : UInt64) : Option (Int × CartRuntime) :=
  if nowNs < runtime.nextDeadlineNs then
    some (0, { runtime with sleepNs := runtime.nextDeadlineNs - nowNs })
  else if nowNs > uint64Max - runtime.framePeriodNs then some (-1, runtime)
  else
    let lateNs := nowNs - runtime.nextDeadlineNs
    if lateNs < runtime.framePeriodNs then
      if runtime.nextDeadlineNs > uint64Max - runtime.framePeriodNs then some (-1, runtime)
      else do
        let nextDeadlineNs ← checkedAdd runtime.nextDeadlineNs runtime.framePeriodNs
        return (0, { runtime with
          nextDeadlineNs := nextDeadlineNs
          sleepNs := nextDeadlineNs - nowNs })
    else do
      let droppedDeadlines ←
        checkedAdd runtime.droppedDeadlines (lateNs / runtime.framePeriodNs)
      let nextDeadlineNs ← checkedAdd nowNs runtime.framePeriodNs
      return (0, { runtime with
        droppedDeadlines := droppedDeadlines
        nextDeadlineNs := nextDeadlineNs
        sleepNs := nextDeadlineNs - nowNs })

/-- `cart_runtime_tick` with its additions checked. -/
def cartRuntimeTickChecked (runtime : CartRuntime) (nowNs : UInt64) :
    Option (Int × CartRuntime) :=
  if runtime.sceneCount = 0 ∨ runtime.framePeriodNs = 0 ∨ runtime.scenePeriodNs = 0 then
    some (-1, runtime)
  else
    let nowNs := runtime.clampNow nowNs
    ((runtime.expireHold nowNs).selectScene nowNs).advanceDeadlineChecked nowNs

/-- No addition of the deadline part wraps while the pacer accounts for what is counted. -/
theorem advanceDeadlineChecked_eq {runtime : CartRuntime} {served : Nat}
    (haccounted : (runtime.pacer served).Accounted) (hperiod : runtime.framePeriodNs ≠ 0)
    (nowNs : UInt64) :
    runtime.advanceDeadlineChecked nowNs = some (runtime.advanceDeadline nowNs) := by
  unfold advanceDeadlineChecked advanceDeadline
  by_cases hearly : nowNs < runtime.nextDeadlineNs
  · rw [if_pos hearly, if_pos hearly]
  rw [if_neg hearly, if_neg hearly]
  have hreached : runtime.nextDeadlineNs ≤ nowNs := UInt64.not_lt.mp hearly
  by_cases hlimit : nowNs > uint64Max - runtime.framePeriodNs
  · rw [if_pos hlimit, if_pos hlimit]
  rw [if_neg hlimit, if_neg hlimit]
  have hfits := add_period_lt (UInt64.not_lt.mp hlimit)
  have hle := UInt64.le_iff_toNat_le.mp hreached
  dsimp only
  by_cases hlate : nowNs - runtime.nextDeadlineNs < runtime.framePeriodNs
  · rw [if_pos hlate, if_pos hlate]
    split
    · rfl
    · rw [checkedAdd_of_lt (by omega)]
      rfl
  · rw [if_neg hlate, if_neg hlate]
    have hdropped := droppedDeadlines_add_lt haccounted hperiod hreached
    rw [checkedAdd_of_lt hdropped, checkedAdd_of_lt hfits]
    rfl

/-- What a successful tick at `nowNs` leaves: a deadline still to come and no more than a period
away, and a sleep that lasts up to it. -/
def SleepsUntilDeadline (runtime : CartRuntime) (nowNs : UInt64) : Prop :=
  nowNs < runtime.nextDeadlineNs ∧
    runtime.nextDeadlineNs.toNat ≤ nowNs.toNat + runtime.framePeriodNs.toNat ∧
    runtime.sleepNs = runtime.nextDeadlineNs - nowNs ∧
    0 < runtime.sleepNs.toNat ∧ runtime.sleepNs.toNat ≤ runtime.framePeriodNs.toNat

theorem foldl_latest_le {latest bound : Nat} (hlatest : latest ≤ bound) {times : List UInt64}
    (htimes : ∀ nowNs ∈ times, nowNs.toNat ≤ bound) :
    times.foldl (fun latest nowNs => max latest nowNs.toNat) latest ≤ bound := by
  induction times generalizing latest with
  | nil => exact hlatest
  | cons nowNs times ih =>
      exact ih (Nat.max_le.mpr ⟨hlatest, htimes nowNs (List.mem_cons_self ..)⟩)
        fun t ht => htimes t (List.mem_cons_of_mem _ ht)

namespace Paced

variable {runtime : CartRuntime} {served latest : Nat}

/-- A successful tick that is not earlier than those before it asks for a sleep of at most a
period. -/
theorem tick_sleeps (paced : runtime.Paced served latest) {nowNs : UInt64}
    (hlatest : latest ≤ (runtime.clampNow nowNs).toNat)
    (hret : (cartRuntimeTick runtime nowNs).1 = 0) :
    (cartRuntimeTick runtime nowNs).2.SleepsUntilDeadline (runtime.clampNow nowNs) := by
  have hperiod := toNat_pos_of_ne_zero paced.configured.frame
  rcases cartRuntimeTick_pacer paced.configured paced.accounted nowNs with
    ⟨_, hadvance, hsleep⟩ | ⟨hfailed, _⟩
  · have hframe := (settings_eq_iff.mp (paced.configured.tick_settings nowNs)).2.2.1
    have hdeadline := congrArg Pacer.deadline hadvance
    have hlt := @Pacer.lt_advance_deadline (runtime.pacer served) hperiod
      (runtime.clampNow nowNs).toNat
    have hle := (paced.within.mono hlatest).advance (Nat.le_refl _)
    rw [Pacer.Within, Pacer.advance_period] at hle
    rw [← hdeadline] at hlt hle
    simp only [pacer] at hlt hle
    have hnow : (runtime.clampNow nowNs) < (cartRuntimeTick runtime nowNs).2.nextDeadlineNs :=
      UInt64.lt_iff_toNat_lt.mpr hlt
    unfold SleepsUntilDeadline
    rw [hsleep, hframe, UInt64.toNat_sub_of_le _ _ (UInt64.le_of_lt hnow)]
    exact ⟨hnow, hle, rfl, by omega, by omega⟩
  · rw [hret] at hfailed
    exact absurd hfailed (by decide)

theorem tick_fails (paced : runtime.Paced served latest) {nowNs : UInt64}
    (hret : (cartRuntimeTick runtime nowNs).1 ≠ 0) :
    (cartRuntimeTick runtime nowNs).1 = -1 ∧
      uint64Max - runtime.framePeriodNs < runtime.clampNow nowNs ∧
      runtime.nextDeadlineNs ≤ runtime.clampNow nowNs := by
  rcases cartRuntimeTick_pacer paced.configured paced.accounted nowNs with
    ⟨hdone, _⟩ | ⟨hfailed, hreached, hlimit, _⟩
  · exact absurd hdone hret
  · exact ⟨hfailed, hlimit, hreached⟩

theorem tickChecked_eq (paced : runtime.Paced served latest) (nowNs : UInt64) :
    cartRuntimeTickChecked runtime nowNs = some (cartRuntimeTick runtime nowNs) := by
  rw [paced.configured.tick_eq, cartRuntimeTickChecked, if_neg (by
    simp [paced.configured.scenes, paced.configured.frame, paced.configured.scene])]
  dsimp only
  generalize runtime.clampNow nowNs = nowNs
  obtain ⟨_, _, _, hframe⟩ := (runtime.expireHold nowNs).selectScene_frame nowNs
  rw [hframe]
  exact @advanceDeadlineChecked_eq { runtime.expireHold nowNs with
    sceneIndex := _, lastChangeNs := _, hadChange := _ } served paced.accounted
    paced.configured.frame nowNs

end Paced

end CartRuntime

open CartRuntime

section

variable {sceneCount : Nat} {originNs framePeriodNs scenePeriodNs minChangeNs : UInt64}
  {runtime : CartRuntime}

/-- Whatever the ticks, the frames served and the deadlines dropped fit, a period each, before the
next deadline. So the count of dropped deadlines is exact, the deadline never goes back, and no more
is served and dropped than whole periods have passed. -/
theorem dropped_deadlines_accounted
    (hinit : cartRuntimeInit sceneCount originNs framePeriodNs scenePeriodNs minChangeNs =
      some runtime) (times : List UInt64) :
    (((runtime.servedTicks times + (runtime.runTicks times).droppedDeadlines.toNat + 1) *
        framePeriodNs.toNat : Nat) : Int) ≤
      (runtime.runTicks times).nextDeadlineNs.toNat - originNs.toNat ∧
    (∀ nowNs, (cartRuntimeTick (runtime.runTicks times) nowNs).2.droppedDeadlines.toNat =
      (runtime.runTicks times).droppedDeadlines.toNat +
        (runtime.runTicks times).droppedBy nowNs) ∧
    (∀ nowNs, (runtime.runTicks times).nextDeadlineNs ≤
      (cartRuntimeTick (runtime.runTicks times) nowNs).2.nextDeadlineNs) ∧
    runtime.servedTicks times + (runtime.runTicks times).droppedDeadlines.toNat ≤
      (latestNs originNs times - originNs.toNat) / framePeriodNs.toNat := by
  have hpaced := paced_of_init hinit
  obtain ⟨_, _, _, hsettings⟩ := cartRuntimeInit_some hinit
  have hsame := (runTicks_settings hpaced.configured times).trans hsettings
  simp only [settings, Prod.mk.injEq] at hsame hsettings
  have hafter := hpaced.run times
  rw [Nat.zero_add] at hafter
  have hperiod := toNat_pos_of_ne_zero hafter.configured.frame
  have haccounted := hafter.accounted
  have hcounted := hafter.accounted.counted_le hafter.within hperiod
  simp only [Pacer.Accounted, pacer, hsame.2.1, hsame.2.2.1] at haccounted hcounted
  refine ⟨by omega, hafter.dropped_tick, hafter.deadline_le_tick, ?_⟩
  exact hcounted

/-- One frame late, four periods missed, a clock read back: two jobs served, four dropped. -/
theorem dropped_deadlines_accounted_overrun :
    ∃ runtime, cartRuntimeInit 6 1000 100 8000 0 = some runtime ∧
      runtime.servedTicks [1150, 1650, 1100] = 2 ∧
      (runtime.runTicks [1150, 1650, 1100]).droppedDeadlines = 4 ∧
      ((((runtime.servedTicks [1150, 1650, 1100] +
          (runtime.runTicks [1150, 1650, 1100]).droppedDeadlines.toNat + 1) * 100 : Nat) : Int) ≤
        (runtime.runTicks [1150, 1650, 1100]).nextDeadlineNs.toNat - 1000) :=
  ⟨_, rfl, by decide, by decide,
    (@dropped_deadlines_accounted 6 1000 100 8000 0 _ rfl [1150, 1650, 1100]).1⟩

/-- In a run of ticks at non-decreasing times each tick either succeeds, and sleeps up to a deadline
at most a period away, or finds its deadline reached so close to the 64-bit limit that a period more
does not fit. None of its additions wraps. -/
theorem tick_sleeps_until_deadline
    (hinit : cartRuntimeInit sceneCount originNs framePeriodNs scenePeriodNs minChangeNs =
      some runtime) {times : List UInt64} (hordered : times.Pairwise (· ≤ ·))
    {before later : List UInt64} {nowNs : UInt64} (hsplit : times = before ++ nowNs :: later) :
    ((cartRuntimeTick (runtime.runTicks before) nowNs).1 = 0 →
      (cartRuntimeTick (runtime.runTicks before) nowNs).2.SleepsUntilDeadline
        ((runtime.runTicks before).clampNow nowNs)) ∧
    ((cartRuntimeTick (runtime.runTicks before) nowNs).1 ≠ 0 →
      (cartRuntimeTick (runtime.runTicks before) nowNs).1 = -1 ∧
      uint64Max - framePeriodNs < (runtime.runTicks before).clampNow nowNs ∧
      (runtime.runTicks before).nextDeadlineNs ≤ (runtime.runTicks before).clampNow nowNs) ∧
    cartRuntimeTickChecked (runtime.runTicks before) nowNs =
      some (cartRuntimeTick (runtime.runTicks before) nowNs) := by
  subst hsplit
  have hpaced := paced_of_init hinit
  obtain ⟨_, _, _, hsettings⟩ := cartRuntimeInit_some hinit
  have hsame := runTicks_settings hpaced.configured before
  obtain ⟨_, horigin, hframe, _⟩ := settings_eq_iff.mp hsame
  simp only [settings, Prod.mk.injEq] at hsettings
  have hbefore : ∀ earlier ∈ before, earlier.toNat ≤ nowNs.toNat := fun earlier hmem =>
    UInt64.le_iff_toNat_le.mp ((List.pairwise_append.mp hordered).2.2 earlier hmem nowNs
      (List.mem_cons_self ..))
  have hafter := hpaced.run before
  have hlatest : before.foldl (fun latest nowNs => max latest nowNs.toNat) originNs.toNat ≤
      ((runtime.runTicks before).clampNow nowNs).toNat := by
    rw [toNat_clampNow, horigin, hsettings.2.1]
    exact foldl_latest_le (Nat.le_max_left _ _)
      fun earlier hmem => (hbefore earlier hmem).trans (Nat.le_max_right _ _)
  refine ⟨hafter.tick_sleeps hlatest, fun hret => ?_, hafter.tickChecked_eq nowNs⟩
  have hfailed := hafter.tick_fails hret
  rwa [hframe, hsettings.2.2.1] at hfailed

theorem tick_sleeps_until_deadline_overrun :
    ∃ runtime, cartRuntimeInit 6 1000 100 8000 0 = some runtime ∧
      (cartRuntimeTick (runtime.runTicks [0, 1150]) 1650).2.SleepsUntilDeadline
        ((runtime.runTicks [0, 1150]).clampNow 1650) :=
  ⟨_, rfl, (@tick_sleeps_until_deadline 6 1000 100 8000 0 _ rfl [0, 1150, 1650] (by decide)
    [0, 1150] [] 1650 rfl).1 (by decide)⟩

/-- A tick before the origin sleeps from the origin, so to a deadline more than a period away. -/
theorem not_sleeps_until_deadline_before_origin :
    ∃ runtime, cartRuntimeInit 6 1000 100 8000 0 = some runtime ∧
      (cartRuntimeTick runtime 0).1 = 0 ∧
      ¬ (cartRuntimeTick runtime 0).2.nextDeadlineNs.toNat ≤ 0 + 100 ∧
      (cartRuntimeTick runtime 0).2.sleepNs ≠ (cartRuntimeTick runtime 0).2.nextDeadlineNs - 0 :=
  ⟨_, rfl, by decide, by decide, by decide⟩

end

end VitaLinuxPort
