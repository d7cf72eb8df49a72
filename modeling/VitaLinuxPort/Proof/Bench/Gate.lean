import VitaLinuxPort.Lib.Run
import VitaLinuxPort.Toolkit.BenchGate
import Mathlib.Algebra.Order.BigOperators.Group.Finset

/-!
# What keeps the workers behind the gate

A worker is past the gate only when it is open, and after the broadcast that goes with opening it no
worker is asleep. The gate is opened for a measurement only after every worker has counted itself.
`workerTurn` and `Control.mainStep` say what a step can do; everything else follows from what they keep.
-/

namespace VitaLinuxPort

open scoped BigOperators

namespace BenchWorkerPoint

/-- Between taking the mutex and leaving it. -/
@[simp] def Inside : BenchWorkerPoint → Prop
  | .count | .signal | .test | .unlock => True
  | _ => False

/-- Whether a worker has counted itself, as a number. -/
@[simp] def counted : BenchWorkerPoint → Nat
  | .unborn | .lock | .count | .barred => 0
  | _ => 1

/-- It has found the gate open. -/
@[simp] def Passed : BenchWorkerPoint → Prop
  | .unlock | .begin | .working | .exited => True
  | _ => False

@[simp] def Done : BenchWorkerPoint → Prop
  | .exited | .barred => True
  | _ => False

theorem counted_le (point : BenchWorkerPoint) : point.counted ≤ 1 := by
  cases point <;> decide

theorem exited_of_counted {point : BenchWorkerPoint} (hdone : point.Done)
    (hcounted : point.counted = 1) : point = .exited := by
  cases point with
  | exited => rfl
  | barred => cases hcounted
  | _ => cases hdone

end BenchWorkerPoint

namespace BenchPoint

@[simp] def Inside : BenchPoint → Prop
  | .failOpen _ | .failSignal _ | .failUnlock _ | .await | .clock | .opening | .signal | .unlock => True
  | _ => False

/-- The gate has not been opened yet. -/
@[simp] def Shut : BenchPoint → Prop
  | .init | .create _ | .failLock _ | .failOpen _ | .lock | .await | .asleep | .clock | .opening => True
  | _ => False

@[simp] def Opened : BenchPoint → Prop
  | .failSignal _ | .failUnlock _ | .failJoin _ _ => True
  | .signal | .unlock | .join _ | .stop | .combine => True
  | _ => False

/-- The opening has been broadcast. -/
@[simp] def Announced : BenchPoint → Prop
  | .failUnlock _ | .failJoin _ _ | .unlock | .join _ | .stop | .combine | .returned _ _ => True
  | _ => False

/-- Every worker was waited for. -/
@[simp] def Measures : BenchPoint → Prop
  | .clock | .opening | .signal | .unlock | .join _ | .stop | .combine => True
  | _ => False

@[simp] def Returned : BenchPoint → Prop
  | .returned _ _ => True
  | _ => False

/-- How many workers have been created, while `run_memory` has not returned. -/
@[simp] def created (n : Nat) : BenchPoint → Option Nat
  | .returned _ _ => none
  | .init => some 0
  | .create index => some index
  | .failLock created | .failOpen created | .failSignal created | .failUnlock created
  | .failJoin created _ => some created
  | _ => some n

/-- How many have been joined. -/
@[simp] def joined (n : Nat) : BenchPoint → Nat
  | .failJoin _ index | .join index => index
  | .stop | .combine => n
  | _ => 0

theorem opened_or_returned {point : BenchPoint} (h : point.Announced) :
    point.Opened ∨ point.Returned := by
  cases point <;> simp at h ⊢

end BenchPoint

namespace BenchGate

variable {n : Nat} {work : BenchWork} {workers : Fin n → BenchWorker} {rounds : UInt32} {bytes : Nat}
  {s t : BenchGate n}

section Exclusion

@[simp] def InsideAt : BenchPoint ⊕ BenchWorkerPoint → Prop :=
  Sum.elim BenchPoint.Inside BenchWorkerPoint.Inside

@[simp] def WaitsAt : BenchPoint ⊕ BenchWorkerPoint → Prop := Sum.elim (· = .asleep) (· = .asleep)

/-- Where a thread is. -/
def thread (s : BenchGate n) : BenchThread n → BenchPoint ⊕ BenchWorkerPoint
  | none => .inl s.main
  | some i => .inr (s.worker i)

theorem thread_main (s t : BenchGate n) (h : t.worker = s.worker) :
    t.thread = Function.update s.thread none (.inl t.main) := by
  funext p
  cases p with
  | none => rfl
  | some i => exact congrArg Sum.inr (congrFun h i)

theorem thread_worker (s t : BenchGate n) {i : Fin n} {point : BenchWorkerPoint} (h : t.main = s.main)
    (hworker : t.worker = Function.update s.worker i point) :
    t.thread = Function.update s.thread (some i) (.inr point) := by
  funext p
  cases p with
  | none => exact congrArg Sum.inl h
  | some j =>
      by_cases hj : j = i
      · subst hj
        simp [thread, hworker]
      · simp [thread, hworker, hj]

/-- The mutex is held by whoever is inside, and only those that wait are asleep. -/
def Guarded (s : BenchGate n) : Prop := s.monitor.Kept InsideAt WaitsAt s.thread

theorem enter_eq_some {thread : BenchThread n} (h : s.enter thread = some t) :
    ∃ monitor, s.monitor.enter thread = some monitor ∧ t = { s with monitor } := by
  obtain ⟨monitor, hmonitor, rfl⟩ := Option.map_eq_some_iff.mp h
  exact ⟨monitor, hmonitor, rfl⟩

end Exclusion

/-- A worker goes on to a point: it counts itself, or has counted itself before; it passes the gate
when it is open, and sleeps when it is not. -/
structure WorkerTurn (s : BenchGate n) (i : Fin n) (point : BenchWorkerPoint) (t : BenchGate n) :
    Prop where
  worker : t.worker = Function.update s.worker i point
  main : t.main = s.main
  go : t.go = s.go
  live : s.worker i ≠ .unborn ∧ ¬ (s.worker i).Done ∧ point ≠ .unborn
  ready : t.ready + (s.worker i).counted = s.ready + point.counted
  grows : (s.worker i).counted ≤ point.counted
  passed : point.Passed → (s.worker i).Passed ∨ s.go = true
  sleepers : ∀ j, some j ∈ t.monitor.sleepers → some j ∈ s.monitor.sleepers ∨ s.go = false
  heard : none ∈ t.monitor.sleepers → none ∈ s.monitor.sleepers ∧
    (point = .signal ∨ t.ready = s.ready ∧ s.worker i ≠ .signal)
  kept : Guarded s → t.monitor.Kept InsideAt WaitsAt (Function.update s.thread (some i) (.inr point))

theorem guarded_of_worker (s : BenchGate n) {i : Fin n} {point : BenchWorkerPoint}
    (hmain : t.main = s.main) (hworker : t.worker = Function.update s.worker i point)
    (kept : t.monitor.Kept InsideAt WaitsAt (Function.update s.thread (some i) (.inr point))) :
    Guarded t := by
  rw [Guarded, thread_worker s t hmain hworker]
  exact kept

theorem WorkerTurn.guarded {i : Fin n} {point : BenchWorkerPoint} (turn : WorkerTurn s i point t)
    (guarded : Guarded s) : Guarded t :=
  guarded_of_worker s turn.main turn.worker (turn.kept guarded)

theorem workerTurn {i : Fin n} (h : s.workerStep work workers rounds bytes i = some t) :
    ∃ point, WorkerTurn s i point t := by
  have hat : s.thread (some i) = .inr (s.worker i) := rfl
  unfold workerStep at h
  split at h
  case h_1 | h_2 | h_3 => cases h
  case h_4 hpoint =>
    obtain ⟨u, hu, rfl⟩ := Option.map_eq_some_iff.mp h
    obtain ⟨monitor, hmonitor, rfl⟩ := enter_eq_some hu
    have hentered := Monitor.enter_eq_some_iff.mp hmonitor
    refine ⟨.count, rfl, rfl, rfl, by simp [hpoint], by simp [hpoint], by simp [hpoint], by simp,
      ?_, ?_, ?_⟩
    · simp only [hentered.2.2]
      exact fun j hj => .inl hj
    · simp only [hentered.2.2, hpoint]
      exact fun hnone => ⟨hnone, by simp⟩
    · exact fun guarded => guarded.enter hmonitor (by simp)
  case h_5 hpoint =>
    cases h
    refine ⟨.signal, rfl, rfl, rfl, by simp [hpoint], by simp [hpoint], by simp [hpoint], by simp,
      fun j hj => .inl hj, fun hnone => ⟨hnone, .inl rfl⟩, fun guarded => ?_⟩
    exact guarded.move (by simp [hat, hpoint]) (by simp [hat, hpoint])
  case h_6 hpoint =>
    cases h
    refine ⟨.test, rfl, rfl, rfl, by simp [hpoint], by simp [hpoint], by simp [hpoint], by simp,
      by simp [Monitor.broadcast], by simp [Monitor.broadcast], fun guarded => ?_⟩
    exact (guarded.move (by simp [hat, hpoint]) (by simp [hat, hpoint])).broadcast
  case h_7 hpoint =>
    split at h
    · next hgo =>
        cases h
        refine ⟨.unlock, rfl, rfl, rfl, by simp [hpoint], by simp [hpoint], by simp [hpoint],
          fun _ => .inr hgo, fun j hj => .inl hj, fun hnone => ⟨hnone, by simp [hpoint]⟩,
          fun guarded => ?_⟩
        exact guarded.move (by simp [hat, hpoint]) (by simp [hat, hpoint])
    · next hgo =>
        cases h
        refine ⟨.asleep, rfl, rfl, rfl, by simp [hpoint], by simp [hpoint], by simp [hpoint], by simp,
          fun j hj => .inr (by simpa using hgo), ?_, fun guarded => ?_⟩
        · simp [Monitor.wait, hpoint]
        · exact guarded.wait (by simp [hat, hpoint]) (by simp) (by simp)
  case h_8 hpoint =>
    obtain ⟨u, hu, rfl⟩ := Option.map_eq_some_iff.mp h
    obtain ⟨monitor, hmonitor, rfl⟩ := enter_eq_some hu
    have hentered := Monitor.enter_eq_some_iff.mp hmonitor
    refine ⟨.test, rfl, rfl, rfl, by simp [hpoint], by simp [hpoint], by simp [hpoint], by simp,
      ?_, ?_, ?_⟩
    · simp only [hentered.2.2]
      exact fun j hj => .inl hj
    · simp only [hentered.2.2, hpoint]
      exact fun hnone => ⟨hnone, by simp⟩
    · exact fun guarded => guarded.enter hmonitor (by simp)
  case h_9 hpoint =>
    cases h
    refine ⟨.begin, rfl, rfl, rfl, by simp [hpoint], by simp [hpoint], by simp [hpoint],
      fun _ => .inl (by simp [hpoint]), fun j hj => .inl hj, fun hnone => ⟨hnone, by simp [hpoint]⟩,
      fun guarded => ?_⟩
    exact guarded.leave (by simp [hat, hpoint]) (by simp [hat, hpoint]) (by simp)
  case h_10 hpoint =>
    cases h
    refine ⟨.working, rfl, rfl, rfl, by simp [hpoint], by simp [hpoint], by simp [hpoint],
      fun _ => .inl (by simp [hpoint]), fun j hj => .inl hj, fun hnone => ⟨hnone, by simp [hpoint]⟩,
      fun guarded => ?_⟩
    exact guarded.move (by simp [hat, hpoint]) (by simp [hat, hpoint])
  case h_11 hpoint =>
    cases h
    refine ⟨.exited, rfl, rfl, rfl, by simp [hpoint], by simp [hpoint], by simp [hpoint],
      fun _ => .inl (by simp [hpoint]), fun j hj => .inl hj, fun hnone => ⟨hnone, by simp [hpoint]⟩,
      fun guarded => ?_⟩
    exact guarded.move (by simp [hat, hpoint]) (by simp [hat, hpoint])

/-- A worker that cannot take the mutex. -/
theorem barredTurn {i : Fin n} (hpoint : s.worker i = .lock) :
    WorkerTurn s i .barred (s.put i .barred) := by
  have hat : s.thread (some i) = .inr (s.worker i) := rfl
  refine ⟨rfl, rfl, rfl, by simp [hpoint], by simp [hpoint], by simp [hpoint], by simp,
    fun j hj => .inl hj, fun hnone => ⟨hnone, by simp [hpoint]⟩, fun guarded => ?_⟩
  exact guarded.move (by simp [hat, hpoint]) (by simp [hat, hpoint])

/-- What holds of the gate and of the workers at every point of the main thread. -/
structure Control (s : BenchGate n) : Prop where
  ready : s.ready = ∑ i, (s.worker i).counted
  shut : s.main.Shut → s.go = false
  opened : s.main.Opened → s.go = true
  passed : ∀ i, (s.worker i).Passed → s.go = true
  announced : s.main.Announced → ∀ i, some i ∉ s.monitor.sleepers
  heard : none ∈ s.monitor.sleepers → s.ready ≠ n ∨ ∃ i, s.worker i = .signal
  measured : s.main.Measures → ∀ i, (s.worker i).counted = 1
  created : ∀ count ∈ s.main.created n, count ≤ n ∧ ∀ i, s.worker i ≠ .unborn ↔ i < count
  joined : ∀ i : Fin n, i < s.main.joined n → (s.worker i).Done
  rests : s.main.Returned → ∀ i, s.worker i = .unborn ∨ (s.worker i).Done

theorem Control.worker (control : Control s) {i : Fin n} {point : BenchWorkerPoint}
    (turn : WorkerTurn s i point t) : Control t := by
  obtain ⟨hborn, hlive, hpoint⟩ := turn.live
  have hat : ∀ j, j ≠ i → t.worker j = s.worker j := fun j hj => by
    rw [turn.worker, Function.update_of_ne hj]
  have hself : t.worker i = point := by
    rw [turn.worker, Function.update_self]
  have hgone : ¬ s.main.Returned := fun hreturned =>
    (control.rests hreturned i).elim hborn hlive
  refine ⟨?_, ?_, ?_, ?_, ?_, ?_, ?_, ?_, ?_, ?_⟩
  · have hsum := sum_update BenchWorkerPoint.counted s.worker i point
    have hready := turn.ready
    rw [turn.worker]
    rw [control.ready] at hready
    omega
  · rw [turn.main, turn.go]
    exact control.shut
  · rw [turn.main, turn.go]
    exact control.opened
  · intro j hj
    rw [turn.go]
    by_cases hji : j = i
    · rw [hji, hself] at hj
      exact (turn.passed hj).elim (control.passed i) id
    · rw [hat j hji] at hj
      exact control.passed j hj
  · rw [turn.main]
    intro hannounced j hj
    rcases turn.sleepers j hj with hold | hshut
    · exact control.announced hannounced j hold
    · have hopened := (BenchPoint.opened_or_returned hannounced).resolve_right hgone
      exact absurd (control.opened hopened) (by simp [hshut])
  · intro hnone
    obtain ⟨hold, rfl | ⟨hready, hother⟩⟩ := turn.heard hnone
    · exact .inr ⟨i, hself⟩
    · rw [hready]
      refine (control.heard hold).imp_right ?_
      rintro ⟨j, hj⟩
      have hji : j ≠ i := fun heq => hother (heq ▸ hj)
      exact ⟨j, (hat j hji).trans hj⟩
  · rw [turn.main]
    intro hmeasures j
    have hcounted := control.measured hmeasures
    by_cases hji : j = i
    · have hgrows := turn.grows
      have hle := point.counted_le
      rw [hcounted i] at hgrows
      rw [hji, hself]
      omega
    · rw [hat j hji]
      exact hcounted j
  · rw [turn.main]
    intro count hcount
    obtain ⟨hle, hiff⟩ := control.created count hcount
    refine ⟨hle, fun j => ?_⟩
    by_cases hji : j = i
    · rw [hji, hself, ← hiff i]
      exact iff_of_true hpoint hborn
    · rw [hat j hji]
      exact hiff j
  · rw [turn.main]
    intro j hj
    have hdone := control.joined j hj
    have hji : j ≠ i := fun heq => hlive (heq ▸ hdone)
    rw [hat j hji]
    exact hdone

  · rw [turn.main]
    exact fun hreturned => absurd hreturned hgone

theorem counted_eq_one (control : Control s) (hready : s.ready = n) (i : Fin n) :
    (s.worker i).counted = 1 := by
  have hsum := Finset.sum_eq_sum_iff_of_le (s := Finset.univ) fun j _ => (s.worker j).counted_le
  refine hsum.mp ?_ i (Finset.mem_univ i)
  rw [← control.ready, hready]
  simp

theorem done_of_hasExited {i : Fin n} (h : s.HasExited i = true) : (s.worker i).Done := by
  unfold HasExited at h
  split at h
  · simp [*]
  · simp [*]
  · cases h

theorem joinStep_cases {index count : Nat} {next done : BenchGate n}
    (h : s.joinStep index count next done = some t) :
    (∃ hindex : index < n, index < count ∧ (s.worker ⟨index, hindex⟩).Done ∧ t = next) ∨
      count ≤ index ∧ t = done := by
  unfold joinStep at h
  split at h
  · next hcount =>
      split at h
      · next hindex =>
          obtain ⟨hexited, hnext⟩ := Option.ite_none_right_eq_some.mp h
          exact .inl ⟨hindex, hcount, done_of_hasExited hexited, (Option.some.inj hnext).symm⟩
      · cases h
  · next hcount => exact .inr ⟨Nat.le_of_not_lt hcount, (Option.some.inj h).symm⟩

/-- The main thread is not asleep. -/
theorem Guarded.none_not_mem (guarded : Guarded s) (h : s.main ≠ .asleep) :
    none ∉ s.monitor.sleepers :=
  guarded.not_mem (by simpa [thread] using h)

/-- The main thread goes on without writing to the gate: it may have taken or left the mutex, or woken
the workers, and what the new point asks of the gate and the workers holds already. -/
theorem Control.goto (control : Control s) {point : BenchPoint} {monitor : Monitor (BenchThread n)}
    {checksum : Fin n → Option UInt64} {log : List (BenchEvent n)}
    (hsleepers : monitor.sleepers ⊆ s.monitor.sleepers)
    (hshut : point.Shut → s.main.Shut) (hopened : point.Opened → s.main.Opened)
    (hannounced : point.Announced → ∀ i, some i ∉ monitor.sleepers)
    (hmeasured : point.Measures → s.main.Measures ∨ s.ready = n)
    (hcreated : ∀ count ∈ point.created n, count ∈ s.main.created n ∨
      count = n ∧ ∃ index, n ≤ index ∧ index ∈ s.main.created n)
    (hjoined : ∀ i : Fin n, i < point.joined n → (s.worker i).Done)
    (hrests : point.Returned → ∀ i, s.worker i = .unborn ∨ (s.worker i).Done) :
    Control { s with monitor, checksum, main := point, log } := by
  refine ⟨control.ready, fun h => control.shut (hshut h), fun h => control.opened (hopened h),
    control.passed, hannounced, fun h => control.heard (hsleepers h), ?_, ?_, hjoined, hrests⟩
  · intro h i
    exact (hmeasured h).elim (control.measured · i) (counted_eq_one control · i)
  · intro count hcount
    obtain hsame | ⟨rfl, index, hle, hindex⟩ := hcreated count hcount
    · exact control.created count hsame
    · obtain ⟨_, hiff⟩ := control.created index hindex
      refine ⟨Nat.le_refl _, fun i => (hiff i).trans ?_⟩
      exact ⟨fun _ => i.isLt, fun h => Nat.lt_of_lt_of_le h hle⟩

theorem Control.unborn (control : Control s) {index : Nat} (hpoint : s.main = .create index)
    (hindex : index < n) : s.worker ⟨index, hindex⟩ = .unborn := by
  obtain ⟨_, hiff⟩ := control.created index (by simp [hpoint])
  by_contra hborn
  exact Nat.lt_irrefl _ ((hiff ⟨index, hindex⟩).mp hborn)

/-- The next worker is created. -/
theorem Control.create (control : Control s) (guarded : Guarded s) {index : Nat}
    (hpoint : s.main = .create index) (hindex : index < n) :
    Control
      (((s.goto (.create (index + 1))).put ⟨index, hindex⟩ .lock).store ⟨index, hindex⟩ 0) := by
  obtain ⟨hle, hiff⟩ := control.created index (by simp [hpoint])
  have hunborn := control.unborn hpoint hindex
  refine ⟨?_, fun _ => control.shut (by simp [hpoint]), by simp, ?_, by simp, ?_, by simp, ?_, by simp,
    by simp⟩
  · have hsum := sum_update BenchWorkerPoint.counted s.worker ⟨index, hindex⟩ .lock
    rw [hunborn] at hsum
    exact control.ready.trans hsum.symm
  · intro i
    by_cases hi : i = ⟨index, hindex⟩
    · simp [hi]
    · simpa [hi] using control.passed i
  · intro hnone
    exact absurd hnone (guarded.none_not_mem (by simp [hpoint]))
  · intro count hcount
    cases hcount
    refine ⟨hindex, fun i => ?_⟩
    by_cases hi : i = ⟨index, hindex⟩
    · simp [hi]
    · have hne : i.val ≠ index := fun h => hi (Fin.ext h)
      have hi' := hiff i
      simp only [Function.update_of_ne hi, hi']
      omega

/-- The gate is opened. -/
theorem Control.opening (control : Control s) {point : BenchPoint} (hshut : ¬ point.Shut)
    (hannounced : ¬ point.Announced) (hmeasured : point.Measures → s.main.Measures)
    (hcreated : ∀ count ∈ point.created n, count ∈ s.main.created n) (hjoined : point.joined n = 0)
    (hreturned : ¬ point.Returned) : Control { s with main := point, go := true } := by
  refine ⟨control.ready, fun h => absurd h hshut, fun _ => rfl, fun _ _ => rfl,
    fun h => absurd h hannounced, control.heard, fun h => control.measured (hmeasured h),
    fun count hcount => control.created count (hcreated count hcount), ?_,
    fun h => absurd h hreturned⟩
  intro i hi
  exact absurd (Nat.lt_of_lt_of_eq hi hjoined) (Nat.not_lt_zero _)

theorem joined_succ {index : Nat} {hindex : index < n}
    (hjoined : ∀ i : Fin n, i < index → (s.worker i).Done)
    (hdone : (s.worker ⟨index, hindex⟩).Done) (i : Fin n) (hi : i < index + 1) : (s.worker i).Done := by
  obtain hlt | heq := Nat.lt_succ_iff_lt_or_eq.mp hi
  · exact hjoined i hlt
  · exact (Fin.ext heq : i = ⟨index, hindex⟩) ▸ hdone

theorem Control.main (control : Control s) (guarded : Guarded s) (h : s.mainStep = some t) :
    Control t := by
  have hannounced := control.announced
  have hjoined := control.joined
  unfold mainStep at h
  split at h
  all_goals
    rename_i hpoint
    rw [hpoint] at hjoined
    simp only [hpoint, BenchPoint.Announced, forall_const, false_imp_iff] at hannounced
  case h_1 =>
    cases h
    apply control.goto <;> simp [hpoint]
  case h_2 index =>
    split at h
    · next hindex =>
        cases h
        exact control.create guarded hpoint hindex
    · next hindex =>
        cases h
        apply control.goto <;> simp [hpoint]
        omega
  case h_3 | h_8 | h_10 =>
    obtain ⟨u, hu, rfl⟩ := Option.map_eq_some_iff.mp h
    obtain ⟨monitor, hmonitor, rfl⟩ := enter_eq_some hu
    obtain ⟨_, _, rfl⟩ := Monitor.enter_eq_some_iff.mp hmonitor
    apply control.goto <;> simp [hpoint]
  case h_4 | h_12 =>
    cases h
    apply control.opening <;> simp [hpoint]
  case h_5 | h_11 | h_13 =>
    cases h
    apply control.goto <;> simp [hpoint]
  case h_6 | h_14 =>
    cases h
    apply control.goto <;> simp [hpoint]
    exact hannounced
  case h_7 created index =>
    obtain ⟨hle, hborn⟩ := control.created created (by simp [hpoint])
    obtain ⟨hindex, _, hdone, rfl⟩ | ⟨hall, rfl⟩ := joinStep_cases h
    · refine control.goto (by simp) (by simp) (by simp [hpoint]) (fun _ => hannounced) (by simp)
        (by simp [hpoint]) ?_ (by simp)
      exact fun i hi => joined_succ hjoined hdone i hi
    · refine control.goto (by simp) (by simp) (by simp) (fun _ => hannounced) (by simp) (by simp)
        (by simp) fun _ i => ?_
      by_cases hi : i < created
      · exact .inr (hjoined i (Nat.lt_of_lt_of_le hi hall))
      · exact .inl (by simpa using mt (hborn i).mp hi)
  case h_9 =>
    split at h
    · next hready =>
        cases h
        refine ⟨control.ready, fun _ => control.shut (by simp [hpoint]), by simp, control.passed,
          by simp, fun _ => .inl hready, by simp, ?_, by simp, by simp⟩
        have hcreated := control.created
        rw [hpoint] at hcreated
        exact hcreated
    · next hready =>
        cases h
        have hall : s.ready = n := Decidable.not_not.mp hready
        exact control.goto (by simp) (by simp [hpoint]) (by simp) (by simp) (fun _ => .inr hall)
          (by simp [hpoint]) (by simp) (by simp)
  case h_15 index =>
    obtain ⟨hindex, _, hdone, rfl⟩ | ⟨hall, rfl⟩ := joinStep_cases h
    · refine control.goto (by simp) (by simp) (by simp [hpoint]) (fun _ => hannounced)
        (by simp [hpoint]) (by simp [hpoint]) ?_ (by simp)
      exact fun i hi => joined_succ hjoined hdone i hi
    · refine control.goto (by simp) (by simp) (by simp [hpoint]) (fun _ => hannounced)
        (by simp [hpoint]) (by simp [hpoint]) ?_ (by simp)
      exact fun i _ => hjoined i (Nat.lt_of_lt_of_le i.isLt hall)
  case h_16 =>
    cases h
    exact control.goto (by simp) (by simp) (by simp [hpoint]) (fun _ => hannounced)
      (by simp [hpoint]) (by simp [hpoint]) hjoined (by simp)
  case h_17 =>
    cases h
    exact control.goto (by simp) (by simp) (by simp) (fun _ => hannounced) (by simp) (by simp)
      (by simp) fun _ i => .inr (hjoined i i.isLt)
  case h_18 => cases h

theorem guarded_of_main (s : BenchGate n) {point : BenchPoint} (hmain : t.main = point)
    (hworker : t.worker = s.worker)
    (kept : t.monitor.Kept InsideAt WaitsAt (Function.update s.thread none (.inl point))) :
    Guarded t := by
  rw [Guarded, thread_main s t hworker, hmain]
  exact kept

/-- The main thread keeps the discipline of the monitor. -/
theorem Guarded.main (guarded : Guarded s) (control : Control s) (h : s.mainStep = some t) :
    Guarded t := by
  have hat : s.thread none = .inl s.main := rfl
  unfold mainStep at h
  split at h
  all_goals
    rename_i hpoint
    rw [hpoint] at hat
  case h_2 index =>
    split at h
    · next hindex =>
        cases h
        have hunborn := control.unborn hpoint hindex
        have hcreated : Guarded (s.goto (.create (index + 1))) :=
          guarded_of_main s rfl rfl (guarded.move (by simp [hat]) (by simp [hat]))
        have hworker : (s.goto (.create (index + 1))).thread (some ⟨index, hindex⟩) = .inr .unborn :=
          congrArg Sum.inr hunborn
        exact guarded_of_worker (s.goto (.create (index + 1))) rfl rfl
          (hcreated.move (by simp [hworker]) (by simp [hworker]))
    · cases h
      exact guarded_of_main s rfl rfl (guarded.move (by simp [hat]) (by simp [hat]))
  case h_3 | h_8 | h_10 =>
    obtain ⟨u, hu, rfl⟩ := Option.map_eq_some_iff.mp h
    obtain ⟨monitor, hmonitor, rfl⟩ := enter_eq_some hu
    exact guarded_of_main s rfl rfl (guarded.enter hmonitor (by simp))
  case h_5 | h_13 =>
    cases h
    exact guarded_of_main s rfl rfl (guarded.move (by simp [hat]) (by simp [hat])).broadcast
  case h_6 | h_14 =>
    cases h
    exact guarded_of_main s rfl rfl (guarded.leave (by simp [hat]) (by simp [hat]) (by simp))
  case h_7 | h_15 =>
    obtain ⟨_, _, _, rfl⟩ | ⟨_, rfl⟩ := joinStep_cases h
    · exact guarded_of_main s rfl rfl (guarded.move (by simp [hat]) (by simp [hat]))
    · exact guarded_of_main s rfl rfl (guarded.move (by simp [hat]) (by simp [hat]))
  case h_9 =>
    split at h
    · cases h
      exact guarded_of_main s rfl rfl (guarded.wait (by simp [hat]) (by simp) (by simp))
    · cases h
      exact guarded_of_main s rfl rfl (guarded.move (by simp [hat]) (by simp [hat]))
  case h_18 => cases h
  all_goals
    cases h
    exact guarded_of_main s rfl rfl (guarded.move (by simp [hat]) (by simp [hat]))

theorem entered_control : Control (entered : BenchGate n) := by
  refine ⟨by simp [entered], fun _ => rfl, by simp [entered], by simp [entered], by simp [entered],
    by simp [entered, Monitor.free], by simp [entered], ?_, by simp [entered], by simp [entered]⟩
  simp [entered]

theorem entered_guarded : Guarded (entered : BenchGate n) := by
  apply Monitor.Kept.start
  intro p
  cases p <;> simp [entered, thread]

/-- A step of `next`: of the main thread or a worker, the end of a failed start, or a thread that wakes
for no reason. -/
theorem step_cases {move : BenchMove n} (h : Steps work workers rounds bytes s move t) :
    (move = .main ∧ s.mainStep = some t) ∨
    (∃ i point, move = .worker i ∧ s.workerStep work workers rounds bytes i = some t ∧
      WorkerTurn s i point t) ∨
    (∃ i, move = .lockFails i ∧ s.worker i = .lock ∧ t = s.put i .barred) ∨
    (move = .initFails ∧ s.main = .init ∧ t = s.goto (.returned (-1) none)) ∨
    (∃ index, ∃ h : index < n, move = .createFails ∧ s.main = .create index ∧
      t = (s.goto (.failLock index)).store ⟨index, h⟩ 0) ∨
    ∃ thread, move = .wake thread ∧ thread ∈ s.monitor.sleepers ∧
      t = { s with monitor := s.monitor.wake thread } := by
  cases move with
  | main => exact .inl ⟨rfl, h⟩
  | worker i =>
      obtain ⟨point, turn⟩ := workerTurn (h : s.workerStep work workers rounds bytes i = some t)
      exact .inr (.inl ⟨i, point, rfl, h, turn⟩)
  | lockFails i =>
      unfold Steps next at h
      dsimp only at h
      split at h
      · next hpoint => exact .inr (.inr (.inl ⟨i, rfl, hpoint, (Option.some.inj h).symm⟩))
      · cases h
  | initFails =>
      unfold Steps next at h
      dsimp only at h
      split at h
      · next hpoint => exact .inr (.inr (.inr (.inl ⟨rfl, hpoint, (Option.some.inj h).symm⟩)))
      · cases h
  | createFails =>
      unfold Steps next at h
      dsimp only at h
      split at h
      · next index hpoint =>
          split at h
          · next hindex =>
              refine .inr (.inr (.inr (.inr (.inl ⟨index, hindex, rfl, hpoint, ?_⟩))))
              exact (Option.some.inj h).symm
          · cases h
      · cases h
  | wake thread =>
      obtain ⟨hmem, hwake⟩ := Option.ite_none_right_eq_some.mp h
      refine .inr (.inr (.inr (.inr (.inr ⟨thread, rfl, hmem, ?_⟩))))
      exact (Option.some.inj hwake).symm

theorem Control.step (control : Control s) (guarded : Guarded s) {move : BenchMove n}
    (h : Steps work workers rounds bytes s move t) : Control t ∧ Guarded t := by
  have hat : s.thread none = .inl s.main := rfl
  obtain ⟨_, hmain⟩ | ⟨i, point, _, _, turn⟩ | ⟨i, _, hpoint, rfl⟩ | ⟨_, hpoint, rfl⟩ |
    ⟨index, hindex, _, hpoint, rfl⟩ | ⟨thread, _, _, rfl⟩ := step_cases h
  · exact ⟨control.main guarded hmain, guarded.main control hmain⟩
  · exact ⟨control.worker turn, turn.guarded guarded⟩
  · exact ⟨control.worker (barredTurn hpoint), (barredTurn hpoint).guarded guarded⟩
  · rw [hpoint] at hat
    have hunborn : ∀ i, s.worker i = .unborn := by
      simpa [hpoint] using control.created 0 (by simp [hpoint])
    refine ⟨control.goto (by simp) (by simp) (by simp) (fun _ i => ?_) (by simp) (by simp) (by simp)
      fun _ i => .inl (hunborn i), ?_⟩
    · exact guarded.not_mem (by simp [thread, hunborn i])
    · exact guarded_of_main s rfl rfl (guarded.move (by simp [hat]) (by simp [hat]))
  · rw [hpoint] at hat
    refine ⟨control.goto (by simp) (by simp [hpoint]) (by simp) (by simp) (by simp) (by simp [hpoint])
      (by simp) (by simp), ?_⟩
    exact guarded_of_main s rfl rfl (guarded.move (by simp [hat]) (by simp [hat]))
  · refine ⟨control.goto (Finset.erase_subset _ _) id id (fun h i hi => ?_) .inl (fun _ => .inl)
      control.joined control.rests, guarded.wake thread⟩
    exact control.announced h i (Finset.mem_of_mem_erase hi)

theorem control_of_run {moves : List (BenchMove n)}
    (run : Run (Steps work workers rounds bytes) entered moves s) : Control s ∧ Guarded s :=
  run.invariant (P := fun s => Control s ∧ Guarded s) ⟨entered_control, entered_guarded⟩
    fun _ _ _ hs h => hs.1.step hs.2 h

end BenchGate

end VitaLinuxPort
