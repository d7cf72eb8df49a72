import VitaLinuxPort.Lib.Monitor
import VitaLinuxPort.Toolkit.Bench
import Mathlib.Data.List.FinRange

/-!
# The benchmark's start gate

`run_memory` and `worker_main` of `toolkit/share/vita-bench.c`, one step for each access to what the
threads share. The workers count themselves and wait until the gate is open; the main thread waits until
all have counted themselves, reads the clock, opens the gate and joins them. Where a worker cannot be
created it opens the gate for those there are, joins them and measures nothing.

A thread that sleeps on the condition may wake at any time, broadcast or not, and tests again. The gate
and the arguments of the workers are on the stack of `run_memory`.
-/

namespace VitaLinuxPort

/-- What an observer sees: the two clock readings, and the work of the workers. -/
inductive BenchEvent (n : Nat) where
  | started
  | stopped
  | began (worker : Fin n)
  | ended (worker : Fin n)
  deriving DecidableEq

/-- The points of `worker_main`: the mutex is taken; `ready` is counted up and the condition broadcast;
`go` is tested, or waited for; the mutex is left, the work begun and ended, and its checksum stored.
`barred` is the return of a worker that could not take the mutex. -/
inductive BenchWorkerPoint where
  | unborn
  | lock
  | count
  | signal
  | test
  | asleep
  | unlock
  | begin
  | working
  | exited
  | barred
  deriving DecidableEq

/-- The points of `run_memory`. After `create`, either those that were created are let go and joined, or
the workers are waited for, the clock is read, the gate opened, the workers joined, the clock read again
and the checksums combined. -/
inductive BenchPoint where
  | init
  | create (index : Nat)
  | failLock (created : Nat)
  | failOpen (created : Nat)
  | failSignal (created : Nat)
  | failUnlock (created : Nat)
  | failJoin (created index : Nat)
  | lock
  | await
  | asleep
  | clock
  | opening
  | signal
  | unlock
  | join (index : Nat)
  | stop
  | combine
  | returned (status : Int32) (checksum : Option UInt64)

/-- A worker, or the main thread as `none`. -/
abbrev BenchThread (n : Nat) := Option (Fin n)

/-- `struct start_gate` with its mutex and condition, the checksums in the arguments of the workers
where they are initialized, and where the threads are. -/
structure BenchGate (n : Nat) where
  monitor : Monitor (BenchThread n)
  ready : Nat
  go : Bool
  checksum : Fin n → Option UInt64
  main : BenchPoint
  worker : Fin n → BenchWorkerPoint
  log : List (BenchEvent n)

/-- The main thread or a worker goes on; the gate cannot be initialized, the next worker cannot be
created, a worker cannot take the mutex; a thread wakes for no reason. -/
inductive BenchMove (n : Nat) where
  | main
  | worker (index : Fin n)
  | initFails
  | createFails
  | lockFails (index : Fin n)
  | wake (thread : BenchThread n)

namespace BenchGate

variable {n : Nat}

def entered : BenchGate n where
  monitor := .free
  ready := 0
  go := false
  checksum := fun _ => none
  main := .init
  worker := fun _ => .unborn
  log := []

abbrev goto (s : BenchGate n) (point : BenchPoint) : BenchGate n := { s with main := point }

abbrev put (s : BenchGate n) (i : Fin n) (point : BenchWorkerPoint) : BenchGate n :=
  { s with worker := Function.update s.worker i point }

abbrev record (s : BenchGate n) (event : BenchEvent n) : BenchGate n :=
  { s with log := s.log ++ [event] }

abbrev store (s : BenchGate n) (i : Fin n) (checksum : UInt64) : BenchGate n :=
  { s with checksum := Function.update s.checksum i (some checksum) }

abbrev left (s : BenchGate n) : BenchGate n := { s with monitor := s.monitor.leave }

abbrev broadcast (s : BenchGate n) : BenchGate n := { s with monitor := s.monitor.broadcast }

def enter (s : BenchGate n) (thread : BenchThread n) : Option (BenchGate n) :=
  (s.monitor.enter thread).map fun monitor => { s with monitor }

def HasExited (s : BenchGate n) (i : Fin n) : Bool :=
  match s.worker i with
  | .exited | .barred => true
  | _ => false

section Steps

variable (work : BenchWork) (workers : Fin n → BenchWorker) (rounds : UInt32) (bytes : Nat)

/-- The next step of a worker, unless it is blocked. -/
def workerStep (s : BenchGate n) (i : Fin n) : Option (BenchGate n) :=
  match s.worker i with
  | .unborn | .exited | .barred => none
  | .lock => (s.enter (some i)).map (·.put i .count)
  | .count => some { s.put i .signal with ready := s.ready + 1 }
  | .signal => some (s.broadcast.put i .test)
  | .test =>
      if s.go then some (s.put i .unlock)
      else some ({ s with monitor := s.monitor.wait (some i) }.put i .asleep)
  | .asleep => (s.enter (some i)).map (·.put i .test)
  | .unlock => some (s.left.put i .begin)
  | .begin => some ((s.put i .working).record (.began i))
  | .working =>
      some (((s.put i .exited).store i ((workers i).workerMain work rounds bytes)).record (.ended i))

/-- `pthread_join` of a worker, and then the next one. -/
def joinStep (s : BenchGate n) (index count : Nat) (next done : BenchGate n) : Option (BenchGate n) :=
  if index < count then
    if h : index < n then if s.HasExited ⟨index, h⟩ then some next else none else none
  else some done

/-- The exclusive or of the workers' checksums. -/
def combined (s : BenchGate n) : UInt64 :=
  (List.finRange n).foldl (fun checksum i => checksum ^^^ (s.checksum i).getD 0) 0

/-- The next step of the main thread, unless it is blocked. -/
def mainStep (s : BenchGate n) : Option (BenchGate n) :=
  match s.main with
  | .init => some (s.goto (.create 0))
  | .create index =>
      if h : index < n then
        some (((s.goto (.create (index + 1))).put ⟨index, h⟩ .lock).store ⟨index, h⟩ 0)
      else some (s.goto .lock)
  | .failLock created => (s.enter none).map (·.goto (.failOpen created))
  | .failOpen created => some { s.goto (.failSignal created) with go := true }
  | .failSignal created => some (s.broadcast.goto (.failUnlock created))
  | .failUnlock created => some (s.left.goto (.failJoin created 0))
  | .failJoin created index =>
      s.joinStep index created (s.goto (.failJoin created (index + 1))) (s.goto (.returned (-1) none))
  | .lock => (s.enter none).map (·.goto .await)
  | .await =>
      if s.ready ≠ n then some ({ s with monitor := s.monitor.wait none }.goto .asleep)
      else some (s.goto .clock)
  | .asleep => (s.enter none).map (·.goto .await)
  | .clock => some ((s.goto .opening).record .started)
  | .opening => some { s.goto .signal with go := true }
  | .signal => some (s.broadcast.goto .unlock)
  | .unlock => some (s.left.goto (.join 0))
  | .join index => s.joinStep index n (s.goto (.join (index + 1))) (s.goto .stop)
  | .stop => some ((s.goto .combine).record .stopped)
  | .combine =>
      some (s.goto (.returned (if s.combined = .ofNat (2 ^ 64 - 1) then -1 else 0) (some s.combined)))
  | .returned _ _ => none

def next (s : BenchGate n) : BenchMove n → Option (BenchGate n)
  | .main => s.mainStep
  | .worker i => s.workerStep work workers rounds bytes i
  | .initFails =>
      match s.main with
      | .init => some (s.goto (.returned (-1) none))
      | _ => none
  | .createFails =>
      match s.main with
      | .create index =>
          if h : index < n then some ((s.goto (.failLock index)).store ⟨index, h⟩ 0) else none
      | _ => none
  | .lockFails i =>
      match s.worker i with
      | .lock => some (s.put i .barred)
      | _ => none
  | .wake thread => if thread ∈ s.monitor.sleepers then some { s with monitor := s.monitor.wake thread }
      else none

def Steps (s : BenchGate n) (move : BenchMove n) (t : BenchGate n) : Prop :=
  s.next work workers rounds bytes move = some t

end Steps

end BenchGate

end VitaLinuxPort
