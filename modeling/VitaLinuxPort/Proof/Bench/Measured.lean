import VitaLinuxPort.Proof.Bench.Gate

/-!
# What is measured

Between the two clock readings of a measurement lies the whole work of every worker and nothing else;
no worker is still there when `run_memory` returns and its stack is gone; and what it returns is what
`runMemory` says of the workers' checksums.
-/

namespace VitaLinuxPort

/-- Whose work an event belongs to; the clock readings are nobody's. -/
def BenchEvent.worker {n : Nat} : BenchEvent n → Option (Fin n)
  | .started | .stopped => none
  | .began i | .ended i => some i

/-- The events of a worker. -/
def ofWorker {n : Nat} (i : Fin n) (log : List (BenchEvent n)) : List (BenchEvent n) :=
  log.filter fun event => event.worker = some i

def OnlyWork {n : Nat} (log : List (BenchEvent n)) : Prop := ∀ event ∈ log, event.worker ≠ none

@[simp] def BenchWorkerPoint.events {n : Nat} (i : Fin n) : BenchWorkerPoint → List (BenchEvent n)
  | .working => [.began i]
  | .exited => [.began i, .ended i]
  | _ => []

/-- The log of a measurement. -/
def Measurement {n : Nat} (log : List (BenchEvent n)) : Prop :=
  ∃ middle, OnlyWork middle ∧ log = .started :: (middle ++ [.stopped])

@[simp] def BenchPoint.Shape {n : Nat} (log : List (BenchEvent n)) : BenchPoint → Prop
  | .init | .create _ | .lock | .await | .asleep | .clock => log = []
  | .opening | .signal | .unlock | .join _ | .stop =>
      ∃ middle, OnlyWork middle ∧ log = .started :: middle
  | .combine | .returned _ (some _) => Measurement log
  | _ => OnlyWork log

/-- The way of a start that fails. -/
@[simp] def BenchPoint.Fails : BenchPoint → Prop
  | .failLock _ | .failOpen _ | .failSignal _ | .failUnlock _ | .failJoin _ _ => True
  | .returned _ none => True
  | _ => False

theorem ofWorker_append {n : Nat} (i : Fin n) (left right : List (BenchEvent n)) :
    ofWorker i (left ++ right) = ofWorker i left ++ ofWorker i right :=
  List.filter_append left right

theorem onlyWork_append {n : Nat} {left right : List (BenchEvent n)} (hleft : OnlyWork left)
    (hright : OnlyWork right) : OnlyWork (left ++ right) := by
  intro event hevent
  exact (List.mem_append.mp hevent).elim (hleft event) (hright event)

namespace BenchGate

variable {n : Nat} {work : BenchWork} {workers : Fin n → BenchWorker} {rounds : UInt32} {bytes : Nat}
  {s t : BenchGate n}

/-- What a step of a worker adds to the log and stores. -/
structure WorkerLog (work : BenchWork) (workers : Fin n → BenchWorker) (rounds : UInt32) (bytes : Nat)
    (s : BenchGate n) (i : Fin n) (t : BenchGate n) (added : List (BenchEvent n)) : Prop where
  log : t.log = s.log ++ added
  own : ∀ event ∈ added, event.worker = some i
  events : (t.worker i).events i = (s.worker i).events i ++ added
  passed : added ≠ [] → (s.worker i).Passed
  others : ∀ j, j ≠ i → t.checksum j = s.checksum j
  stored : t.worker i = .exited → t.checksum i = some ((workers i).workerMain work rounds bytes)
  admitted : t.worker i ≠ .barred

theorem workerLog {i : Fin n} (h : s.workerStep work workers rounds bytes i = some t) :
    ∃ added, WorkerLog work workers rounds bytes s i t added := by
  unfold workerStep at h
  split at h
  case h_1 | h_2 | h_3 => cases h
  case h_4 hpoint | h_8 hpoint =>
    obtain ⟨u, hu, rfl⟩ := Option.map_eq_some_iff.mp h
    obtain ⟨monitor, _, rfl⟩ := enter_eq_some hu
    exact ⟨[], by simp, by simp, by simp [hpoint], by simp, fun _ _ => rfl, by simp, by simp⟩
  case h_7 hpoint =>
    split at h
    · cases h
      exact ⟨[], by simp, by simp, by simp [hpoint], by simp, fun _ _ => rfl, by simp, by simp⟩
    · cases h
      exact ⟨[], by simp, by simp, by simp [hpoint], by simp, fun _ _ => rfl, by simp, by simp⟩
  case h_10 hpoint =>
    cases h
    exact ⟨[.began i], rfl, by simp [BenchEvent.worker], by simp [hpoint], by simp [hpoint],
      fun _ _ => rfl, by simp, by simp⟩
  case h_11 hpoint =>
    cases h
    refine ⟨[.ended i], rfl, by simp [BenchEvent.worker], by simp [hpoint], by simp [hpoint],
      fun j hj => ?_, fun _ => ?_, by simp⟩
    · exact Function.update_of_ne hj _ _
    · exact Function.update_self _ _ _
  all_goals
    rename_i hpoint
    cases h
    exact ⟨[], by simp, by simp, by simp [hpoint], by simp, fun _ _ => rfl, by simp, by simp⟩

/-- What the log and the stored checksums are at every point. -/
structure Logged (work : BenchWork) (workers : Fin n → BenchWorker) (rounds : UInt32) (bytes : Nat)
    (s : BenchGate n) : Prop where
  shape : s.main.Shape s.log
  own : ∀ i, ofWorker i s.log = (s.worker i).events i
  stored : ∀ i, s.worker i = .exited →
    s.checksum i = some ((workers i).workerMain work rounds bytes)

theorem ofWorker_own {i : Fin n} {added : List (BenchEvent n)}
    (hown : ∀ event ∈ added, event.worker = some i) : ofWorker i added = added := by
  apply List.filter_eq_self.mpr
  exact fun event hevent => decide_eq_true (hown event hevent)

theorem ofWorker_other {i j : Fin n} {added : List (BenchEvent n)} (hij : j ≠ i)
    (hown : ∀ event ∈ added, event.worker = some i) : ofWorker j added = [] := by
  apply List.filter_eq_nil_iff.mpr
  intro event hevent
  rw [hown event hevent]
  simp [hij.symm]

/-- A worker that works finds the log of an open gate. -/
theorem shape_append {point : BenchPoint} {log added : List (BenchEvent n)} (h : point.Shape log)
    (hwork : OnlyWork added) (hopen : added ≠ [] → ¬ point.Shut ∧ point ≠ .combine ∧ ¬ point.Returned) :
    point.Shape (log ++ added) := by
  by_cases hnone : added = []
  · rw [hnone, List.append_nil]
    exact h
  · obtain ⟨hshut, hcombine, hreturned⟩ := hopen hnone
    cases point <;> simp at h hshut hcombine hreturned ⊢
    case failSignal | failUnlock | failJoin => exact onlyWork_append h hwork
    all_goals
      obtain ⟨middle, hmiddle, rfl⟩ := h
      exact ⟨middle ++ added, onlyWork_append hmiddle hwork, by simp⟩

theorem Logged.worker (logged : Logged work workers rounds bytes s) (control : Control s) {i : Fin n}
    {point : BenchWorkerPoint} (turn : WorkerTurn s i point t) {added : List (BenchEvent n)}
    (adds : WorkerLog work workers rounds bytes s i t added) : Logged work workers rounds bytes t := by
  obtain ⟨hborn, hlive, _⟩ := turn.live
  have hwork : OnlyWork added := fun event hevent => by simp [adds.own event hevent]
  have hat : ∀ j, j ≠ i → t.worker j = s.worker j := fun j hj => by
    rw [turn.worker, Function.update_of_ne hj]
  refine ⟨?_, fun j => ?_, fun j hj => ?_⟩
  · rw [turn.main, adds.log]
    refine shape_append logged.shape hwork fun hadded => ?_
    have hgo := control.passed i (adds.passed hadded)
    refine ⟨fun hshut => ?_, fun hcombine => ?_, fun hreturned => ?_⟩
    · exact absurd (control.shut hshut) (by simp [hgo])
    · have hjoined := control.joined i
      rw [hcombine] at hjoined
      exact hlive (hjoined i.isLt)
    · exact (control.rests hreturned i).elim hborn hlive
  · rw [adds.log, ofWorker_append, logged.own]
    by_cases hji : j = i
    · rw [hji, ofWorker_own adds.own, adds.events]
    · rw [hat j hji, ofWorker_other hji adds.own, List.append_nil]
  · by_cases hji : j = i
    · rw [hji] at hj ⊢
      exact adds.stored hj
    · rw [hat j hji] at hj
      rw [adds.others j hji]
      exact logged.stored j hj

theorem Logged.of_main (logged : Logged work workers rounds bytes s) (hworker : t.worker = s.worker)
    (hchecksum : t.checksum = s.checksum) (hlog : ∀ i, ofWorker i t.log = ofWorker i s.log)
    (hshape : t.main.Shape t.log) : Logged work workers rounds bytes t := by
  refine ⟨hshape, fun i => ?_, fun i hi => ?_⟩
  · rw [hlog, hworker]
    exact logged.own i
  · rw [hworker] at hi
    rw [hchecksum]
    exact logged.stored i hi

/-- The arguments of a worker that has not been created are filled in. -/
theorem Logged.store (logged : Logged work workers rounds bytes s) {i : Fin n}
    (hunborn : s.worker i = .unborn) : Logged work workers rounds bytes (s.store i 0) := by
  refine ⟨logged.shape, logged.own, fun j hj => ?_⟩
  have hji : j ≠ i := by
    rintro rfl
    rw [hunborn] at hj
    cases hj
  exact (Function.update_of_ne hji _ _).trans (logged.stored j hj)

theorem Logged.put (logged : Logged work workers rounds bytes s) {i : Fin n} {point : BenchWorkerPoint}
    (hbefore : (s.worker i).events i = []) (hafter : point.events i = []) :
    Logged work workers rounds bytes (s.put i point) := by
  have hself : (s.put i point).worker i = point := Function.update_self _ _ _
  have hother : ∀ j, j ≠ i → (s.put i point).worker j = s.worker j :=
    fun j hj => Function.update_of_ne hj _ _
  refine ⟨logged.shape, fun j => ?_, fun j hj => ?_⟩
  · by_cases hji : j = i
    · rw [hji, hself, hafter, ← hbefore]
      exact logged.own i
    · rw [hother j hji]
      exact logged.own j
  · by_cases hji : j = i
    · rw [hji, hself] at hj
      rw [hj] at hafter
      cases hafter
    · rw [hother j hji] at hj
      exact logged.stored j hj

theorem Logged.main (logged : Logged work workers rounds bytes s) (control : Control s)
    (h : s.mainStep = some t) : Logged work workers rounds bytes t := by
  have hshape := logged.shape
  unfold mainStep at h
  split at h
  all_goals
    rename_i hpoint
    rw [hpoint] at hshape
  case h_2 index =>
    split at h
    · next hindex =>
        cases h
        have hunborn := control.unborn hpoint hindex
        have hgone : Logged work workers rounds bytes (s.goto (.create (index + 1))) :=
          logged.of_main rfl rfl (fun _ => rfl) hshape
        have hstored := hgone.store hunborn
        exact hstored.put (by simp [hunborn]) (by simp)
    · cases h
      exact logged.of_main rfl rfl (fun _ => rfl) hshape
  case h_3 | h_8 | h_10 =>
    obtain ⟨u, hu, rfl⟩ := Option.map_eq_some_iff.mp h
    obtain ⟨monitor, _, rfl⟩ := enter_eq_some hu
    exact logged.of_main rfl rfl (fun _ => rfl) hshape
  case h_7 | h_15 =>
    obtain ⟨_, _, _, rfl⟩ | ⟨_, rfl⟩ := joinStep_cases h
    · exact logged.of_main rfl rfl (fun _ => rfl) hshape
    · exact logged.of_main rfl rfl (fun _ => rfl) hshape
  case h_9 =>
    split at h
    · cases h
      exact logged.of_main rfl rfl (fun _ => rfl) hshape
    · cases h
      exact logged.of_main rfl rfl (fun _ => rfl) hshape
  case h_11 =>
    cases h
    have hnone : s.log = [] := hshape
    refine logged.of_main rfl rfl (fun i => ?_) ⟨[], by simp [OnlyWork], by simp [hnone]⟩
    rw [ofWorker_append]
    simp [ofWorker, BenchEvent.worker]
  case h_16 =>
    cases h
    obtain ⟨middle, hmiddle, hlog⟩ := hshape
    refine logged.of_main rfl rfl (fun i => ?_) ⟨middle, hmiddle, by simp [hlog]⟩
    rw [ofWorker_append]
    simp [ofWorker, BenchEvent.worker]
  case h_18 => cases h
  all_goals
    cases h
    exact logged.of_main rfl rfl (fun _ => rfl) hshape

theorem entered_logged : Logged work workers rounds bytes entered :=
  ⟨rfl, fun _ => rfl, by simp [entered]⟩

theorem Logged.step (logged : Logged work workers rounds bytes s) (control : Control s)
    {move : BenchMove n} (h : Steps work workers rounds bytes s move t) :
    Logged work workers rounds bytes t := by
  obtain ⟨_, hmain⟩ | ⟨i, point, _, hworker, turn⟩ | ⟨i, _, hpoint, rfl⟩ | ⟨_, hpoint, rfl⟩ |
    ⟨index, hindex, _, hpoint, rfl⟩ | ⟨thread, _, _, rfl⟩ := step_cases h
  · exact logged.main control hmain
  · obtain ⟨added, adds⟩ := workerLog hworker
    exact logged.worker control turn adds
  · exact logged.put (by simp [hpoint]) (by simp)
  · have hshape := logged.shape
    rw [hpoint] at hshape
    have hnone : s.log = [] := hshape
    refine logged.of_main rfl rfl (fun _ => rfl) ?_
    simp [hnone, OnlyWork]
  · have hshape := logged.shape
    rw [hpoint] at hshape
    have hnone : s.log = [] := hshape
    have hgone : Logged work workers rounds bytes (s.goto (.failLock index)) :=
      logged.of_main rfl rfl (fun _ => rfl) (by simp [hnone, OnlyWork])
    exact hgone.store (control.unborn hpoint hindex)
  · exact logged.of_main rfl rfl (fun _ => rfl) logged.shape

/-- What was returned, where `run_memory` has returned. -/
def Result (work : BenchWork) (workers : Fin n → BenchWorker) (rounds : UInt32) (bytes : Nat)
    (s : BenchGate n) : Prop :=
  match s.main with
  | .returned status none => status = -1
  | .returned status (some checksum) => (∀ i, s.worker i = .exited) ∧
      (status, some checksum) = runMemory true work ((List.ofFn workers).map some) rounds bytes
  | _ => True

theorem combined_eq_foldl
    (hstored : ∀ i, s.checksum i = some ((workers i).workerMain work rounds bytes)) :
    s.combined = (List.ofFn workers).foldl
      (fun checksum worker => checksum ^^^ worker.workerMain work rounds bytes) 0 := by
  rw [combined, List.ofFn_eq_map, List.foldl_map]
  simp only [hstored, Option.getD_some]

theorem runMemory_created
    (hstored : ∀ i, s.checksum i = some ((workers i).workerMain work rounds bytes)) :
    runMemory true work ((List.ofFn workers).map some) rounds bytes =
      (if s.combined = .ofNat (2 ^ 64 - 1) then -1 else 0, some s.combined) := by
  have hcreated : ((List.ofFn workers).map some).any Option.isNone = false := by simp
  rw [runMemory, hcreated, List.filterMap_map, combined_eq_foldl hstored]
  simp

/-- Every worker that was waited for and joined has stored its checksum. -/
theorem Logged.stored_of_combine (logged : Logged work workers rounds bytes s) (control : Control s)
    (hpoint : s.main = .combine) (i : Fin n) :
    s.worker i = .exited ∧ s.checksum i = some ((workers i).workerMain work rounds bytes) := by
  have hjoined := control.joined i
  rw [hpoint] at hjoined
  have hexited := BenchWorkerPoint.exited_of_counted (hjoined i.isLt)
    (control.measured (by simp [hpoint]) i)
  exact ⟨hexited, logged.stored i hexited⟩

theorem result_main (logged : Logged work workers rounds bytes s) (control : Control s)
    (h : s.mainStep = some t) : Result work workers rounds bytes t := by
  unfold mainStep at h
  split at h
  case h_2 =>
    split at h
    all_goals
      cases h
      trivial
  case h_3 | h_8 | h_10 =>
    obtain ⟨u, hu, rfl⟩ := Option.map_eq_some_iff.mp h
    trivial
  case h_7 | h_15 =>
    obtain ⟨_, _, _, rfl⟩ | ⟨_, rfl⟩ := joinStep_cases h
    · trivial
    · trivial
  case h_9 =>
    split at h
    all_goals
      cases h
      trivial
  case h_17 hpoint =>
    cases h
    have hexited := logged.stored_of_combine control hpoint
    exact ⟨fun i => (hexited i).1, (runMemory_created fun i => (hexited i).2).symm⟩
  case h_18 => cases h
  all_goals
    cases h
    trivial

theorem Result.worker (result : Result work workers rounds bytes s) {i : Fin n}
    {point : BenchWorkerPoint} (turn : WorkerTurn s i point t) :
    Result work workers rounds bytes t := by
  unfold Result at result ⊢
  rw [turn.main]
  split at result
  · exact result
  · exact absurd (result.1 i) fun hexited => turn.live.2.1 (by simp [hexited])
  · trivial

/-- The main thread does nothing to a worker but create it, and does not change its mind. -/
theorem mainTurn (control : Control s) (h : s.mainStep = some t) :
    (t.main.Fails ↔ s.main.Fails) ∧
      ∀ i, t.worker i = s.worker i ∨ s.worker i = .unborn ∧ t.worker i = .lock := by
  unfold mainStep at h
  split at h
  all_goals
    rename_i hpoint
    rw [hpoint]
  case h_2 index =>
    split at h
    · next hindex =>
        cases h
        refine ⟨by simp, fun i => ?_⟩
        by_cases hi : i = ⟨index, hindex⟩
        · rw [hi]
          exact .inr ⟨control.unborn hpoint hindex, Function.update_self _ _ _⟩
        · exact .inl (Function.update_of_ne hi _ _)
    · cases h
      exact ⟨by simp, fun _ => .inl rfl⟩
  case h_3 | h_8 | h_10 =>
    obtain ⟨u, hu, rfl⟩ := Option.map_eq_some_iff.mp h
    obtain ⟨monitor, _, rfl⟩ := enter_eq_some hu
    exact ⟨by simp, fun _ => .inl rfl⟩
  case h_7 | h_15 =>
    obtain ⟨_, _, _, rfl⟩ | ⟨_, rfl⟩ := joinStep_cases h
    · exact ⟨by simp, fun _ => .inl rfl⟩
    · exact ⟨by simp, fun _ => .inl rfl⟩
  case h_9 =>
    split at h
    all_goals
      cases h
      exact ⟨by simp, fun _ => .inl rfl⟩
  case h_18 => cases h
  all_goals
    cases h
    exact ⟨by simp, fun _ => .inl rfl⟩

/-- What the moves so far say about the state: the start has failed exactly where the gate or a worker
could not be had, and a worker that could not take the mutex has returned. -/
structure Recorded (moves : List (BenchMove n)) (s : BenchGate n) : Prop where
  fails : s.main.Fails ↔ .initFails ∈ moves ∨ .createFails ∈ moves
  barred : ∀ i, .lockFails i ∈ moves → s.worker i = .barred

theorem Recorded.step {moves : List (BenchMove n)} (recorded : Recorded moves s) (control : Control s)
    {move : BenchMove n} (h : Steps work workers rounds bytes s move t) :
    Recorded (moves ++ [move]) t := by
  have hfails := recorded.fails
  have hbarred := recorded.barred
  obtain ⟨rfl, hmain⟩ | ⟨i, point, rfl, _, turn⟩ | ⟨i, rfl, hpoint, rfl⟩ | ⟨rfl, hpoint, rfl⟩ |
    ⟨index, hindex, rfl, hpoint, rfl⟩ | ⟨thread, rfl, _, rfl⟩ := step_cases h
  · obtain ⟨hsame, hworkers⟩ := mainTurn control hmain
    refine ⟨hsame.trans (hfails.trans (by simp)), fun i hi => ?_⟩
    have hi' := hbarred i (by simpa using hi)
    exact ((hworkers i).resolve_right (by simp [hi'])).trans hi'
  · refine ⟨by simpa [turn.main] using hfails, fun j hj => ?_⟩
    have hj' := hbarred j (by simpa using hj)
    have hji : j ≠ i := by
      rintro rfl
      exact turn.live.2.1 (by simp [hj'])
    rw [turn.worker, Function.update_of_ne hji, hj']
  · refine ⟨by simpa using hfails, fun j hj => ?_⟩
    by_cases hji : j = i
    · simp [hji]
    · have hj' := hbarred j (by simpa [hji] using hj)
      simp [hji, hj']
  · exact ⟨by simp, by simpa using hbarred⟩
  · exact ⟨by simp, by simpa using hbarred⟩
  · exact ⟨by simpa using hfails, by simpa using hbarred⟩

theorem recorded_of_run {moves : List (BenchMove n)}
    (run : Run (Steps work workers rounds bytes) entered moves s) :
    Control s ∧ Guarded s ∧ Logged work workers rounds bytes s ∧
      Result work workers rounds bytes s ∧ Recorded moves s := by
  refine run.history (P := fun moves s => Control s ∧ Guarded s ∧ Logged work workers rounds bytes s ∧
    Result work workers rounds bytes s ∧ Recorded moves s) ?_ ?_
  · exact ⟨entered_control, entered_guarded, entered_logged, trivial, by simp [entered], by simp⟩
  · intro past s move t hs h
    obtain ⟨control, guarded, logged, result, recorded⟩ := hs
    obtain ⟨hcontrol, hguarded⟩ := control.step guarded h
    refine ⟨hcontrol, hguarded, logged.step control h, ?_, recorded.step control h⟩
    obtain ⟨_, hmain⟩ | ⟨i, point, _, _, turn⟩ | ⟨i, _, hpoint, rfl⟩ | ⟨_, _, rfl⟩ |
      ⟨index, hindex, _, _, rfl⟩ | ⟨thread, _, _, rfl⟩ := step_cases h
    · exact result_main logged control hmain
    · exact result.worker turn
    · exact result.worker (barredTurn hpoint)
    · rfl
    · trivial
    · exact result

theorem hasExited_of_done {i : Fin n} (h : (s.worker i).Done) : s.HasExited i = true := by
  unfold HasExited
  cases hpoint : s.worker i <;> simp [hpoint] at h ⊢

/-- When `run_memory` has returned, in whatever order the threads went on, no thread is left that could
use its stack. Either the gate or a worker could not be had; then it has returned -1 and read no clock.
Or every worker has taken the mutex, its return value and checksum are those of `runMemory`, and between
the two clock readings lies the work of every worker from its beginning to its end. -/
theorem returned_spec {moves : List (BenchMove n)}
    (run : Run (Steps work workers rounds bytes) entered moves s) {status : Int32}
    {checksum : Option UInt64} (h : s.main = .returned status checksum) :
    (∀ i, s.worker i = .unborn ∨ s.HasExited i = true) ∧
      ((.initFails ∈ moves ∨ .createFails ∈ moves) ∧ status = -1 ∧ checksum = none ∧
          OnlyWork s.log ∨
        (.initFails ∉ moves ∧ .createFails ∉ moves ∧ ∀ i, .lockFails i ∉ moves) ∧
          (status, checksum) = runMemory true work ((List.ofFn workers).map some) rounds bytes ∧
          ∃ middle, s.log = .started :: (middle ++ [.stopped]) ∧ OnlyWork middle ∧
            ∀ i, ofWorker i middle = [.began i, .ended i]) := by
  obtain ⟨control, _, logged, result, recorded⟩ := recorded_of_run run
  have hrests := control.rests (by simp [h])
  refine ⟨fun i => (hrests i).imp_right hasExited_of_done, ?_⟩
  have hshape := logged.shape
  have hfails := recorded.fails
  unfold Result at result
  rw [h] at hshape result hfails
  cases checksum with
  | none => exact .inl ⟨hfails.mp trivial, result, rfl, hshape⟩
  | some checksum =>
      obtain ⟨hinit, hcreate⟩ := not_or.mp (mt hfails.mpr id)
      obtain ⟨hexited, hresult⟩ := result
      obtain ⟨middle, hmiddle, hlog⟩ := hshape
      refine .inr ⟨⟨hinit, hcreate, fun i hi => ?_⟩, hresult, middle, hlog, hmiddle, fun i => ?_⟩
      · have hbarred := recorded.barred i hi
        rw [hexited i] at hbarred
        cases hbarred
      · have hown := logged.own i
        rw [hlog, hexited i] at hown
        simpa [ofWorker, BenchEvent.worker] using hown

/-- The worker sleeps until the gate is open. -/
private def oneWorker : List (BenchMove 1) :=
  .replicate 3 .main ++ .replicate 4 (.worker 0) ++ .replicate 6 .main ++ .replicate 5 (.worker 0) ++
    .replicate 4 .main

theorem returned_spec_oneWorker : ∃ s : BenchGate 1,
    Run (Steps .memset (fun _ => ⟨0, true, true⟩) 1 1) entered oneWorker s ∧
      ∃ middle, s.log = .started :: (middle ++ [.stopped]) ∧
        ofWorker 0 middle = [.began 0, .ended 0] := by
  have hreturned : (execute (next .memset (fun _ => ⟨0, true, true⟩) 1 1) entered oneWorker).map
      (·.main) = some (.returned 0 (some 0)) := rfl
  obtain ⟨s, hexecute, hmain⟩ := Option.map_eq_some_iff.mp hreturned
  have run := Run.of_execute hexecute
  have hspec := returned_spec run hmain
  obtain ⟨_, _, hnone, _⟩ | ⟨_, _, middle, hlog, _, hown⟩ := hspec.2
  · cases hnone
  · exact ⟨s, run, middle, hlog, hown 0⟩

end BenchGate

end VitaLinuxPort
