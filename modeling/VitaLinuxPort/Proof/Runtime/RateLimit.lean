import VitaLinuxPort.Lib.Limiter
import VitaLinuxPort.Proof.Runtime.Calls

/-!
# The photosensitivity guard is a rate limiter

The runtime is a limiter in the sense of `Limiter` whose grants are exactly the scene changes: the
guard is the limiter's test, and a change is a grant by what `Calls.lean` says of every call.
-/

namespace VitaLinuxPort

theorem CartRuntime.changeAllowed_iff {runtime : CartRuntime} (hmin : runtime.minChangeNs ≠ 0)
    (nowNs : UInt64) :
    runtime.changeAllowed nowNs = true ↔
      Limiter.Allows runtime.minChangeNs.toNat runtime.lastChange nowNs.toNat := by
  unfold CartRuntime.changeAllowed CartRuntime.lastChange
  cases runtime.hadChange with
  | false => simp [hmin]
  | true =>
      by_cases hearly : nowNs < runtime.lastChangeNs
      · have := UInt64.lt_iff_toNat_lt.mp hearly
        simp [hmin, hearly]
        omega
      · have hle : runtime.lastChangeNs ≤ nowNs := UInt64.not_lt.mp hearly
        have := UInt64.le_iff_toNat_le.mp hle
        simp [hmin, hearly, UInt64.le_iff_toNat_le, UInt64.toNat_sub_of_le _ _ hle]
        omega

section

variable [Target]

/-- The times of the calls after which `sceneIndex` differs from its value before the call. -/
def changeTimes (runtime : CartRuntime) : List RuntimeCall → List UInt64
  | [] => []
  | call :: calls =>
      (if (call.apply runtime).sceneIndex ≠ runtime.sceneIndex then [call.nowNs] else []) ++
        changeTimes (call.apply runtime) calls

def runCalls (runtime : CartRuntime) (calls : List RuntimeCall) : CartRuntime :=
  calls.foldl RuntimeCall.apply runtime

/-- The scene changes of any sequence of calls are grants of the limiter. -/
theorem grants_changeTimes {runtime : CartRuntime} (held : runtime.Held)
    (hmin : runtime.minChangeNs ≠ 0) (calls : List RuntimeCall)
    (hnow : ∀ call ∈ calls, runtime.originNs ≤ call.nowNs) :
    Limiter.Grants runtime.minChangeNs.toNat runtime.lastChange
      ((changeTimes runtime calls).map UInt64.toNat) := by
  induction calls generalizing runtime with
  | nil => trivial
  | cons call calls ih =>
      obtain ⟨hlimited, hheld, hsettings⟩ := call.apply_limited held
      rw [RuntimeCall.actsAt_of_le (hnow call (List.mem_cons_self ..))] at hlimited
      obtain ⟨_, horigin, _, _, hsame⟩ := CartRuntime.settings_eq_iff.mp hsettings
      have hrest := ih hheld (hsame ▸ hmin)
        (fun c hc => horigin ▸ hnow c (List.mem_cons_of_mem _ hc))
      rw [hsame] at hrest
      rw [changeTimes]
      rcases hlimited with ⟨hscene, hlast⟩ | ⟨hscene, hallowed, hlast⟩
      · rw [if_neg (not_not.mpr hscene), List.nil_append, ← hlast]
        exact hrest
      · rw [if_pos hscene, List.map_append, List.map_singleton, List.singleton_append]
        exact ⟨(CartRuntime.changeAllowed_iff hmin _).mp hallowed, hlast ▸ hrest⟩

theorem runCalls_held {runtime : CartRuntime} (held : runtime.Held) (calls : List RuntimeCall) :
    (runCalls runtime calls).Held ∧ (runCalls runtime calls).settings = runtime.settings := by
  induction calls generalizing runtime with
  | nil => exact ⟨held, rfl⟩
  | cons call calls ih =>
      obtain ⟨_, hheld, hsettings⟩ := call.apply_limited held
      obtain ⟨hrest, hsame⟩ := ih hheld
      exact ⟨hrest, hsame.trans hsettings⟩

theorem recorded_of_change {runtime : CartRuntime} (held : runtime.Held) (call : RuntimeCall)
    (hnow : runtime.originNs ≤ call.nowNs)
    (hchange : (call.apply runtime).sceneIndex ≠ runtime.sceneIndex) :
    runtime.changeAllowed call.nowNs = true ∧
      (call.apply runtime).lastChange = some call.nowNs.toNat := by
  obtain ⟨hlimited, _, _⟩ := call.apply_limited held
  rw [RuntimeCall.actsAt_of_le hnow] at hlimited
  rcases hlimited with ⟨hscene, _⟩ | ⟨_, hallowed, hlast⟩
  · exact absurd hscene hchange
  · exact ⟨hallowed, hlast⟩

/-- Scene changes are `minChangeNs` apart, as many times over as there are changes between them,
whatever calls are made and in whatever order the clock is read; and every change is one the guard
allowed and recorded. -/
theorem scene_changes_rate_limited {sceneCount : Nat} {originNs framePeriodNs scenePeriodNs
    minChangeNs : UInt64} {runtime : CartRuntime} (hinit : cartRuntimeInit sceneCount originNs
      framePeriodNs scenePeriodNs minChangeNs = some runtime)
    (hmin : 0 < minChangeNs) (calls : List RuntimeCall)
    (hnow : ∀ call ∈ calls, originNs ≤ call.nowNs) :
    (∀ i j (hij : i < j) (hj : j < (changeTimes runtime calls).length),
      (changeTimes runtime calls)[i].toNat + (j - i) * minChangeNs.toNat ≤
        (changeTimes runtime calls)[j].toNat) ∧
      ∀ before call after, calls = before ++ call :: after →
        (call.apply (runCalls runtime before)).sceneIndex ≠
          (runCalls runtime before).sceneIndex →
        (runCalls runtime before).changeAllowed call.nowNs = true ∧
          (call.apply (runCalls runtime before)).lastChange = some call.nowNs.toNat := by
  obtain ⟨held, hlast, _, hsettings⟩ := cartRuntimeInit_some hinit
  simp only [CartRuntime.settings, Prod.mk.injEq] at hsettings
  obtain ⟨_, rfl, _, _, rfl⟩ := hsettings
  constructor
  · intro i j hij hj
    have hne : runtime.minChangeNs ≠ 0 := (UInt64.pos_iff_ne_zero).mp hmin
    have hgap := (grants_changeTimes held hne calls hnow).gap hij (by simpa using hj)
    simpa only [List.getElem_map] using hgap
  · intro before call after heq hchange
    subst heq
    obtain ⟨hheld, hsame⟩ := runCalls_held held before
    have horigin := (CartRuntime.settings_eq_iff.mp hsame).2.1
    exact recorded_of_change hheld call (horigin ▸ hnow call (by simp)) hchange

end

private def threeCalls : List RuntimeCall :=
  [.requestNext 2000 1000000, .requestNext 400000000 0, .requestPrevious 600000000 0]

theorem scene_changes_rate_limited_threeCalls :
    letI := armv7
    ∃ runtime, cartRuntimeInit 6 1000 33333333 8000000000 500000000 = some runtime ∧
      changeTimes runtime threeCalls = [2000, 600000000] ∧
      ∀ i j (hij : i < j) (hj : j < (changeTimes runtime threeCalls).length),
        (changeTimes runtime threeCalls)[i].toNat + (j - i) * 500000000 ≤
          (changeTimes runtime threeCalls)[j].toNat :=
  letI := armv7
  ⟨_, rfl, by decide,
    (@scene_changes_rate_limited armv7 6 1000 33333333 8000000000 500000000 _ rfl (by decide)
      threeCalls (by decide)).1⟩

end VitaLinuxPort
