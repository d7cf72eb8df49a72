import VitaLinuxPort.Proof.Bench.Measured
import Mathlib.Data.Fintype.Option
import Mathlib.Data.Fintype.BigOperators
import Mathlib.Tactic.Ring

/-!
# No thread of the benchmark waits for ever

Every change of `ready` and `go` is broadcast while the mutex is still held. So a thread that sleeps
while what it waits for has happened is woken, and as long as no worker is kept from the mutex
`run_memory` returns after a bounded number of steps, without any thread waking for no reason.
-/

namespace VitaLinuxPort

open scoped BigOperators

namespace BenchWorkerPoint

/-- The steps a worker has left, if nobody has to wait. -/
@[simp] def base : BenchWorkerPoint → Nat
  | .unborn => 10
  | .lock => 9
  | .count => 8
  | .signal => 7
  | .asleep => 6
  | .test => 5
  | .unlock => 4
  | .begin => 3
  | .working => 2
  | .exited | .barred => 0

/-- The broadcasts it has still to make. -/
@[simp] def pending : BenchWorkerPoint → Nat
  | .unborn | .lock | .count | .signal => 1
  | _ => 0

end BenchWorkerPoint

namespace BenchPoint

@[simp] def base (n : Nat) : BenchPoint → Nat
  | .init => 2 * n + 12
  | .create index => n + 11 + (n - index)
  | .failLock _ => n + 5
  | .failOpen _ => n + 4
  | .failSignal _ => n + 3
  | .failUnlock _ => n + 2
  | .failJoin _ index => 1 + (n - index)
  | .lock => n + 10
  | .asleep => n + 9
  | .await => n + 8
  | .clock => n + 7
  | .opening => n + 6
  | .signal => n + 5
  | .unlock => n + 4
  | .join index => 3 + (n - index)
  | .stop => 2
  | .combine => 1
  | .returned _ _ => 0

@[simp] def pending : BenchPoint → Nat
  | .failUnlock _ | .failJoin _ _ | .unlock | .join _ | .stop | .combine | .returned _ _ => 0
  | _ => 1

end BenchPoint

namespace BenchGate

variable {n : Nat} {work : BenchWork} {workers : Fin n → BenchWorker} {rounds : UInt32} {bytes : Nat}
  {s t : BenchGate n}

def distance (s : BenchGate n) : Nat :=
  s.monitor.distance (Sum.elim (BenchPoint.base n) BenchWorkerPoint.base)
    (Sum.elim BenchPoint.pending BenchWorkerPoint.pending) s.thread

theorem distance_worker_lt (s : BenchGate n) {i : Fin n} {point : BenchWorkerPoint}
    (hmain : t.main = s.main) (hworker : t.worker = Function.update s.worker i point)
    (hless : t.monitor.distance (Sum.elim (BenchPoint.base n) BenchWorkerPoint.base)
      (Sum.elim BenchPoint.pending BenchWorkerPoint.pending)
      (Function.update s.thread (some i) (.inr point)) < s.distance) : t.distance < s.distance := by
  rw [distance, thread_worker s t hmain hworker]
  exact hless

theorem distance_main_lt (s : BenchGate n) {point : BenchPoint} (hmain : t.main = point)
    (hworker : t.worker = s.worker)
    (hless : t.monitor.distance (Sum.elim (BenchPoint.base n) BenchWorkerPoint.base)
      (Sum.elim BenchPoint.pending BenchWorkerPoint.pending)
      (Function.update s.thread none (.inl point)) < s.distance) : t.distance < s.distance := by
  rw [distance, thread_main s t hworker, hmain]
  exact hless

theorem distance_put_lt {i : Fin n} {point : BenchWorkerPoint} (hmain : t.main = s.main)
    (hworker : t.worker = Function.update s.worker i point)
    (hsleepers : t.monitor.sleepers = s.monitor.sleepers)
    (hpending : point.pending ≤ (s.worker i).pending) (hbase : point.base < (s.worker i).base) :
    t.distance < s.distance := by
  have hat : s.thread (some i) = .inr (s.worker i) := rfl
  refine distance_worker_lt s hmain hworker (Monitor.distance_lt (fun q _ => by rw [hsleepers]) ?_)
  have hmul := Nat.mul_le_mul_left (2 * Fintype.card (BenchThread n)) hpending
  simp only [Monitor.weight, hat, hsleepers, Sum.elim_inr]
  omega

theorem distance_goto_lt {point : BenchPoint} (hmain : t.main = point) (hworker : t.worker = s.worker)
    (hsleepers : t.monitor.sleepers = s.monitor.sleepers) (hpending : point.pending ≤ s.main.pending)
    (hbase : point.base n < s.main.base n) : t.distance < s.distance := by
  have hat : s.thread none = .inl s.main := rfl
  refine distance_main_lt s hmain hworker (Monitor.distance_lt (fun q _ => by rw [hsleepers]) ?_)
  have hmul := Nat.mul_le_mul_left (2 * Fintype.card (BenchThread n)) hpending
  simp only [Monitor.weight, hat, hsleepers, Sum.elim_inl]
  omega

theorem distance_workerStep_lt (guarded : Guarded s) {i : Fin n}
    (h : s.workerStep work workers rounds bytes i = some t) : t.distance < s.distance := by
  have hat : s.thread (some i) = .inr (s.worker i) := rfl
  unfold workerStep at h
  split at h
  case h_1 | h_2 | h_3 => cases h
  case h_4 hpoint | h_8 hpoint =>
    obtain ⟨u, hu, rfl⟩ := Option.map_eq_some_iff.mp h
    obtain ⟨monitor, hmonitor, rfl⟩ := enter_eq_some hu
    obtain ⟨_, _, rfl⟩ := Monitor.enter_eq_some_iff.mp hmonitor
    exact distance_put_lt rfl rfl rfl (by simp [hpoint]) (by simp [hpoint])
  case h_6 hpoint =>
    cases h
    have hawake : some i ∉ s.monitor.sleepers := guarded.not_mem (by simp [hat, hpoint])
    refine distance_worker_lt s rfl rfl (Monitor.distance_broadcast_lt hawake ?_ ?_) <;>
      simp [hat, hpoint]
  case h_7 hpoint =>
    split at h
    · cases h
      exact distance_put_lt rfl rfl rfl (by simp [hpoint]) (by simp [hpoint])
    · cases h
      have hawake : some i ∉ s.monitor.sleepers := guarded.not_mem (by simp [hat, hpoint])
      refine distance_worker_lt s rfl rfl (Monitor.distance_lt (fun q hq => ?_) ?_)
      · simp [hq]
      · simp [Monitor.weight, hat, hpoint, hawake]
  all_goals
    rename_i hpoint
    cases h
    exact distance_put_lt rfl rfl rfl (by simp [hpoint]) (by simp [hpoint])

theorem distance_mainStep_lt (control : Control s) (guarded : Guarded s) (h : s.mainStep = some t) :
    t.distance < s.distance := by
  have hat : s.thread none = .inl s.main := rfl
  unfold mainStep at h
  split at h
  all_goals rename_i hpoint
  case h_2 index =>
    split at h
    · next hindex =>
        cases h
        have hgone : (s.goto (.create (index + 1))).distance < s.distance :=
          distance_goto_lt rfl rfl rfl (by simp [hpoint])
            (by simp only [hpoint, BenchPoint.base]; omega)
        have hworker := control.unborn hpoint hindex
        refine Nat.lt_trans ?_ hgone
        exact @distance_put_lt _ (s.goto (.create (index + 1))) _ ⟨index, hindex⟩ .lock rfl rfl rfl
          (by simp [hworker]) (by simp [hworker])
    · cases h
      exact distance_goto_lt rfl rfl rfl (by simp [hpoint])
        (by simp only [hpoint, BenchPoint.base]; omega)
  case h_3 | h_8 | h_10 =>
    obtain ⟨u, hu, rfl⟩ := Option.map_eq_some_iff.mp h
    obtain ⟨monitor, hmonitor, rfl⟩ := enter_eq_some hu
    obtain ⟨_, _, rfl⟩ := Monitor.enter_eq_some_iff.mp hmonitor
    exact distance_goto_lt rfl rfl rfl (by simp [hpoint])
      (by simp only [hpoint, BenchPoint.base]; omega)
  case h_5 | h_13 =>
    cases h
    have hawake := guarded.none_not_mem (by simp [hpoint])
    refine distance_main_lt s rfl rfl (Monitor.distance_broadcast_lt hawake ?_ ?_) <;>
      simp [hat, hpoint]
  case h_7 | h_15 =>
    obtain ⟨hindex, _, _, rfl⟩ | ⟨_, rfl⟩ := joinStep_cases h
    · exact distance_goto_lt rfl rfl rfl (by simp [hpoint])
        (by simp only [hpoint, BenchPoint.base]; omega)
    · exact distance_goto_lt rfl rfl rfl (by simp [hpoint])
        (by simp only [hpoint, BenchPoint.base]; omega)
  case h_9 =>
    split at h
    · cases h
      have hawake := guarded.none_not_mem (by simp [hpoint])
      refine distance_main_lt s rfl rfl (Monitor.distance_lt (fun q hq => ?_) ?_)
      · simp [hq]
      · simp [Monitor.weight, hat, hpoint, hawake]
        omega
    · cases h
      exact distance_goto_lt rfl rfl rfl (by simp [hpoint])
        (by simp only [hpoint, BenchPoint.base]; omega)
  case h_18 => cases h
  all_goals
    cases h
    exact distance_goto_lt rfl rfl rfl (by simp [hpoint])
      (by simp only [hpoint, BenchPoint.base]; omega)

/-- A step in which no thread wakes for no reason and no worker is kept from the mutex. -/
structure Advances (work : BenchWork) (workers : Fin n → BenchWorker) (rounds : UInt32) (bytes : Nat)
    (s : BenchGate n) (move : BenchMove n) (t : BenchGate n) : Prop where
  steps : Steps work workers rounds bytes s move t
  heard : ∀ thread, move ≠ .wake thread
  admitted : ∀ i, move ≠ .lockFails i

theorem Advances.distance_lt {move : BenchMove n} (h : Advances work workers rounds bytes s move t)
    (control : Control s) (guarded : Guarded s) : t.distance < s.distance := by
  obtain ⟨rfl, hmain⟩ | ⟨i, point, rfl, hworker, _⟩ | ⟨i, rfl, _, _⟩ | ⟨rfl, hpoint, rfl⟩ |
    ⟨index, hindex, rfl, hpoint, rfl⟩ | ⟨thread, rfl, _, _⟩ := step_cases h.steps
  · exact distance_mainStep_lt control guarded hmain
  · exact distance_workerStep_lt guarded hworker
  · exact absurd rfl (h.admitted i)
  · exact distance_goto_lt rfl rfl rfl (by simp [hpoint]) (by simp [hpoint])
  · exact distance_goto_lt rfl rfl rfl (by simp [hpoint])
      (by simp only [hpoint, BenchPoint.base]; omega)
  · exact absurd rfl (h.heard thread)

theorem distance_bound (s : BenchGate n) : s.distance ≤ 2 * (n + 1) * (n + 8) := by
  have hcard : Fintype.card (BenchThread n) = n + 1 := by simp [BenchThread]
  have hle : s.distance ≤ ∑ p : BenchThread n, p.elim (2 * n + 12 + 2 * (n + 1) + 2)
      fun _ => 10 + 2 * (n + 1) + 2 := by
    apply Monitor.distance_le
    intro p
    rw [hcard]
    cases p with
    | none =>
        simp only [thread, Sum.elim_inl, Option.elim_none]
        cases s.main <;> simp only [BenchPoint.base, BenchPoint.pending] <;> omega
    | some i =>
        simp only [thread, Sum.elim_inr, Option.elim_some]
        cases s.worker i <;> simp only [BenchWorkerPoint.base, BenchWorkerPoint.pending] <;> omega
  rw [Fintype.sum_option] at hle
  simp only [Option.elim_none, Option.elim_some, Finset.sum_const, Finset.card_univ, Fintype.card_fin]
    at hle
  refine hle.trans (le_of_eq ?_)
  ring

section GoesOn

/-- No worker was kept from the mutex. -/
def Admitted (s : BenchGate n) : Prop := ∀ i, s.worker i ≠ .barred

theorem Admitted.step (admitted : Admitted s) (control : Control s) {move : BenchMove n}
    (h : Steps work workers rounds bytes s move t) (hmove : ∀ i, move ≠ .lockFails i) : Admitted t := by
  obtain ⟨_, hmain⟩ | ⟨i, point, _, hworker, turn⟩ | ⟨i, rfl, _, _⟩ | ⟨_, _, rfl⟩ |
    ⟨index, hindex, _, _, rfl⟩ | ⟨thread, _, _, rfl⟩ := step_cases h
  · intro i
    rcases (mainTurn control hmain).2 i with hsame | ⟨_, hlock⟩
    · rw [hsame]
      exact admitted i
    · simp [hlock]
  · obtain ⟨added, adds⟩ := workerLog hworker
    intro j
    by_cases hji : j = i
    · rw [hji]
      exact adds.admitted
    · rw [turn.worker, Function.update_of_ne hji]
      exact admitted j
  · exact absurd rfl (hmove i)
  · exact admitted
  · exact admitted
  · exact admitted

/-- A worker that is not waiting for the gate goes on, unless the mutex is taken. -/
theorem worker_goesOn (guarded : Guarded s) (hfree : s.monitor.holder = none) (i : Fin n) :
    (∃ t, s.workerStep work workers rounds bytes i = some t) ∨ s.worker i = .unborn ∨
      s.worker i = .barred ∨ s.worker i = .exited ∨
        s.worker i = .asleep ∧ some i ∈ s.monitor.sleepers := by
  cases hpoint : s.worker i with
  | unborn => simp
  | barred => simp
  | exited => simp
  | asleep =>
      by_cases hmem : some i ∈ s.monitor.sleepers
      · simp [hmem]
      · left
        simp only [workerStep, hpoint, enter, Monitor.Kept.enter_of_free hfree hmem, Option.map_some]
        exact ⟨_, rfl⟩
  | lock =>
      have hmem : some i ∉ s.monitor.sleepers := guarded.not_mem (by simp [thread, hpoint])
      left
      simp only [workerStep, hpoint, enter, Monitor.Kept.enter_of_free hfree hmem, Option.map_some]
      exact ⟨_, rfl⟩
  | test =>
      left
      simp only [workerStep, hpoint]
      split <;> exact ⟨_, rfl⟩
  | _ =>
      left
      simp only [workerStep, hpoint]
      exact ⟨_, rfl⟩

/-- A worker that holds the mutex goes on. -/
theorem inside_goesOn {i : Fin n} (h : (s.worker i).Inside) :
    ∃ t, s.workerStep work workers rounds bytes i = some t := by
  cases hpoint : s.worker i <;> simp [hpoint] at h <;> simp only [workerStep, hpoint]
  case test => split <;> exact ⟨_, rfl⟩
  all_goals exact ⟨_, rfl⟩

theorem joinStep_goesOn {index count : Nat} {next done : BenchGate n} (hcount : count ≤ n)
    (h : ∀ i : Fin n, i.val = index → index < count → (s.worker i).Done) :
    ∃ t, s.joinStep index count next done = some t := by
  unfold joinStep
  split
  · next hindex =>
      have hlt := Nat.lt_of_lt_of_le hindex hcount
      have hexited := hasExited_of_done (h ⟨index, hlt⟩ rfl hindex)
      rw [dif_pos hlt, if_pos hexited]
      exact ⟨_, rfl⟩
  · exact ⟨_, rfl⟩

/-- When all are there and wait for the gate or have passed it, all have counted themselves. -/
theorem ready_of_waiting (control : Control s) (hborn : ∀ i : Fin n, s.worker i ≠ .unborn ↔ i < n)
    (hworkers : ∀ i, s.worker i = .unborn ∨ s.worker i = .exited ∨
      s.worker i = .asleep ∧ some i ∈ s.monitor.sleepers) : s.ready = n := by
  have hcounted : ∀ i ∈ Finset.univ, (s.worker i).counted = 1 := by
    intro i _
    obtain hunborn | hexited | ⟨hasleep, _⟩ := hworkers i
    · exact absurd hunborn ((hborn i).mpr i.isLt)
    · simp [hexited]
    · simp [hasleep]
  rw [control.ready, Finset.sum_congr rfl hcounted]
  simp

/-- The main thread goes on when it holds the mutex, and when no worker can. -/
theorem main_goesOn (control : Control s) (guarded : Guarded s) (hreturned : ¬ s.main.Returned)
    (hwaits : ¬ s.main.Inside → s.monitor.holder = none ∧ ∀ i, s.worker i = .unborn ∨
      s.worker i = .exited ∨ s.worker i = .asleep ∧ some i ∈ s.monitor.sleepers) :
    ∃ t, s.mainStep = some t := by
  have hcreated := control.created
  have hjoins : s.main.Announced → ∀ i, s.worker i ≠ .unborn →
      ¬ s.main.Inside → (s.worker i).Done := by
    intro hannounced i hborn hinside
    obtain hunborn | hexited | ⟨_, hmem⟩ := (hwaits hinside).2 i
    · exact absurd hunborn hborn
    · simp [hexited]
    · exact absurd hmem (control.announced hannounced i)
  cases hpoint : s.main <;> simp only [hpoint] at hwaits hreturned hcreated hjoins <;>
    simp only [mainStep, hpoint]
  case create =>
    split <;> exact ⟨_, rfl⟩
  case failLock | lock =>
    have hmem := guarded.none_not_mem (by simp [hpoint])
    simp only [enter, Monitor.Kept.enter_of_free (hwaits id).1 hmem, Option.map_some]
    exact ⟨_, rfl⟩
  case asleep =>
    obtain ⟨hfree, hworkers⟩ := hwaits id
    by_cases hmem : none ∈ s.monitor.sleepers
    · obtain hready | ⟨i, hsignal⟩ := control.heard hmem
      · exact absurd (ready_of_waiting control (hcreated n rfl).2 hworkers) hready
      · have hi := hworkers i
        simp [hsignal] at hi
    · simp only [enter, Monitor.Kept.enter_of_free hfree hmem, Option.map_some]
      exact ⟨_, rfl⟩
  case failJoin created index =>
    obtain ⟨hle, hborn⟩ := hcreated created rfl
    refine joinStep_goesOn hle fun i hi hindex => ?_
    exact hjoins trivial i ((hborn i).mpr (hi ▸ hindex)) id
  case join index =>
    obtain ⟨_, hborn⟩ := hcreated n rfl
    refine joinStep_goesOn (Nat.le_refl n) fun i _ _ => ?_
    exact hjoins trivial i ((hborn i).mpr i.isLt) id
  case await =>
    split <;> exact ⟨_, rfl⟩
  case returned => exact absurd trivial hreturned
  all_goals exact ⟨_, rfl⟩

theorem goesOn (control : Control s) (guarded : Guarded s) (admitted : Admitted s)
    (hreturned : ¬ s.main.Returned) : ∃ move t, Advances work workers rounds bytes s move t := by
  have hworker : ∀ i, (∃ t, s.workerStep work workers rounds bytes i = some t) →
      ∃ move t, Advances work workers rounds bytes s move t := by
    rintro i ⟨t, ht⟩
    exact ⟨.worker i, t, ht, by simp, by simp⟩
  have hmain : (∃ t, s.mainStep = some t) → ∃ move t, Advances work workers rounds bytes s move t := by
    rintro ⟨t, ht⟩
    exact ⟨.main, t, ht, by simp, by simp⟩
  obtain hfree | ⟨p, _, hinside⟩ := guarded.holder_cases
  · by_cases hgoes : ∃ i, ∃ t, s.workerStep work workers rounds bytes i = some t
    · obtain ⟨i, hi⟩ := hgoes
      exact hworker i hi
    · refine hmain (main_goesOn control guarded hreturned fun _ => ⟨hfree, fun i => ?_⟩)
      have hi := (worker_goesOn guarded hfree i).resolve_left fun h => hgoes ⟨i, h⟩
      have hnot := admitted i
      tauto
  · cases p with
    | none => exact hmain (main_goesOn control guarded hreturned fun hout => absurd hinside hout)
    | some i => exact hworker i (inside_goesOn hinside)

end GoesOn

/-- From every state that is reached without a worker being kept from the mutex, in whatever order the
threads go on, they take at most `2 (n + 1) (n + 8)` steps more, and one of them goes on until
`run_memory` has returned. -/
theorem run_returns {moves further : List (BenchMove n)}
    (run : Run (Steps work workers rounds bytes) entered moves s)
    (hadmitted : ∀ i, .lockFails i ∉ moves)
    (onward : Run (Advances work workers rounds bytes) s further t) :
    further.length ≤ 2 * (n + 1) * (n + 8) ∧
      (t.main.Returned ∨ ∃ move u, Advances work workers rounds bytes t move u) := by
  have hreached : Control s ∧ Guarded s ∧ Admitted s := by
    refine run.invariant_of_mem (P := fun s => Control s ∧ Guarded s ∧ Admitted s) ?_ ?_
    · exact ⟨entered_control, entered_guarded, by simp [Admitted, entered]⟩
    · intro u move v hmem hu h
      obtain ⟨control, guarded, admitted⟩ := hu
      have hmove : ∀ i, move ≠ .lockFails i := fun i heq => hadmitted i (heq ▸ hmem)
      obtain ⟨hcontrol, hguarded⟩ := control.step guarded h
      exact ⟨hcontrol, hguarded, admitted.step control h hmove⟩
  have hkeep : ∀ u move v, (Control u ∧ Guarded u ∧ Admitted u) →
      Advances work workers rounds bytes u move v → Control v ∧ Guarded v ∧ Admitted v := by
    intro u move v hu h
    obtain ⟨control, guarded, admitted⟩ := hu
    obtain ⟨hcontrol, hguarded⟩ := control.step guarded h.steps
    exact ⟨hcontrol, hguarded, admitted.step control h.steps h.admitted⟩
  refine ⟨?_, ?_⟩
  · have hlength := onward.length_le (P := fun u => Control u ∧ Guarded u ∧ Admitted u) distance
      hreached fun u move v hu h => ⟨hkeep u move v hu h, h.distance_lt hu.1 hu.2.1⟩
    have hbound := s.distance_bound
    omega
  · obtain ⟨control, guarded, admitted⟩ :=
      onward.invariant (P := fun u => Control u ∧ Guarded u ∧ Admitted u) hreached hkeep
    exact Classical.or_iff_not_imp_left.mpr (goesOn control guarded admitted)

/-- Two workers, one of which sleeps while the other has not begun. -/
private def oneAsleep : List (BenchMove 2) :=
  .replicate 4 .main ++ .replicate 4 (.worker ⟨0, Nat.two_pos⟩)

theorem run_returns_oneAsleep : ∃ s : BenchGate 2,
    Run (Steps .compute (fun _ => ⟨0, true, true⟩) 1 1) entered oneAsleep s ∧ ¬ s.main.Returned ∧
      ∃ move u, Advances .compute (fun _ => ⟨0, true, true⟩) 1 1 s move u := by
  have hlock : (execute (next .compute (fun _ => ⟨0, true, true⟩) 1 1) entered oneAsleep).map
      (·.main) = some .lock := rfl
  obtain ⟨s, hexecute, hmain⟩ := Option.map_eq_some_iff.mp hlock
  have run := Run.of_execute hexecute
  have hreturned : ¬ s.main.Returned := by simp [hmain]
  have hreturns := run_returns run (by simp [oneAsleep]) (.nil s)
  exact ⟨s, run, hreturned, hreturns.2.resolve_left hreturned⟩

end BenchGate

end VitaLinuxPort
